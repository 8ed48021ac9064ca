import RouteGuard.Lib.GuardedRun
import RouteGuard.Lib.HashTable
import RouteGuard.Lib.Rollup
import Mathlib.Data.List.Perm.Basic
import Mathlib.Data.List.ReduceOption

/-! # The metrics store

`MetricsStore` of `observability/store.rs`.  A call of `record` takes the lock of
the raw samples and then, apart from it, the lock of the minutes, so the calls of
several threads may come to the two parts in different orders.  Arithmetic wraps,
as in a release build. -/
set_option autoImplicit false
namespace RouteGuard

open GuardedRun HashTable Rollup

def rawCap : Nat := 3600

def minuteCap : Nat := 1440

/-- What the store needs of `f64`: `0.0`, `+` and `sum / count as f64`. -/
class MetricValue (V : Type) extends Zero V, Add V where
  overCount : V → UInt32 → V

structure Sample (V : Type) where
  tsSecs : Nat
  value : V
deriving DecidableEq, Repr

structure MetricSeriesPoint (V : Type) where
  ts : String
  value : V
deriving DecidableEq, Repr

/-- A bucket is its minute, its sum and its count. -/
structure MetricsStore (V : Type) where
  raw : Table String (List (Sample V)) := ∅
  minute : Table String (List (Sample V)) := ∅
  lastMinuteBucket : Table String (Nat × V × UInt32) := ∅

/-- `SystemTime::now()`; before the epoch there is no duration since it. -/
abbrev UnixClock := Option Nat

def UnixClock.secs (clock : UnixClock) : Nat := Option.getD clock 0

def windowSecs (window : String) : Nat :=
  if window = "5m" then 300
  else if window = "1h" then 3600
  else if window = "24h" then 86400
  else if window = "7d" then 604800
  else 3600

def usesMinute (window resolution : String) : Bool :=
  resolution == "1m" || resolution == "5m" || (resolution == "auto" && 3600 ≤ windowSecs window)

def pointsSince {V : Type} (since : Nat) (q : List (Sample V)) : List (MetricSeriesPoint V) :=
  (q.filter fun s => since ≤ s.tsSecs).map fun s => ⟨toString s.tsSecs ++ "Z", s.value⟩

structure RollupLine (V : Type) where
  ts : String
  metric : String
  value : V
deriving DecidableEq, Repr

/-- What `persist_rollups` meets: whether the file can be opened, and at the line of a metric the
time and how far a write came that fails. -/
structure RollupAnswers where
  opens : Bool
  nowIso : String → String
  cut : String → Option Nat

namespace MetricsStore
variable {V : Type}

/-- The first part of `record`. -/
def pushRaw (s : MetricsStore V) (metric : String) (sample : Sample V) : MetricsStore V :=
  let q := (s.raw.get metric).getD []
  { s with raw := s.raw.insert metric (popExcess rawCap (q ++ [sample])) }

def pushMinute (s : MetricsStore V) (metric : String) (average : Sample V) : MetricsStore V :=
  let mq := (s.minute.get metric).getD []
  { s with minute := s.minute.insert metric (popExcess minuteCap (mq ++ [average])) }

/-- The second part of `record`. -/
def rollMinute [MetricValue V] (s : MetricsStore V) (metric : String) (sample : Sample V) :
    MetricsStore V :=
  let minuteTs := sample.tsSecs / 60
  let (bucketTs, sum, count) := (s.lastMinuteBucket.get metric).getD (minuteTs, 0, 0)
  if bucketTs ≠ minuteTs then
    let s := if 0 < count then
        s.pushMinute metric ⟨bucketTs * 60, MetricValue.overCount sum count⟩
      else s
    { s with
      lastMinuteBucket := s.lastMinuteBucket.insert metric (minuteTs, sample.value, 1) }
  else
    { s with
      lastMinuteBucket :=
        s.lastMinuteBucket.insert metric (bucketTs, sum + sample.value, count + 1) }

/-- The two locks of `query` are taken one after the other: `s` is the store at the first one and
`later` the store at the second one, if it comes to that. -/
def query (s later : MetricsStore V) (now : UnixClock) (metric window resolution : String) :
    List (MetricSeriesPoint V) :=
  let since := now.secs - windowSecs window
  match if usesMinute window resolution then s.minute.get metric else none with
  | some q => pointsSince since q
  | none =>
      match later.raw.get metric with
      | some q => pointsSince since q
      | none => []

/-- The line of a metric holds its last average; where its write fails, so many bytes of it are in
the file. -/
def persistRollups (o : Order) (answers : RollupAnswers) (s : MetricsStore V) :
    List (RollupLine V × Option Nat) :=
  if answers.opens then
    (o.items s.minute).filterMap fun (metric, samples) =>
      samples.getLast?.map fun sample =>
        (⟨answers.nowIso metric, metric, sample.value⟩, answers.cut metric)
  else []

end MetricsStore

/-! ## Calls under way -/

structure RecordCall (V : Type) where
  metric : String
  sample : Sample V
deriving DecidableEq, Repr

/-- `inFlight` holds the calls between their two parts.  For the proofs, `entered` and `rolled` list
the calls in the order in which they came to the first and to the second part. -/
structure RecordRun (V : Type) where
  store : MetricsStore V := {}
  inFlight : List (RecordCall V) := []
  entered : List (RecordCall V) := []
  rolled : List (RecordCall V) := []

/-- `pushRaw` begins a call and `rollMinute` ends one of those under way. -/
inductive RecordStep (V : Type) where
  | pushRaw (clock : UnixClock) (metric : String) (value : V)
  | rollMinute (i : Nat)

namespace RecordRun
variable {V : Type} [MetricValue V]

def step (w : RecordRun V) : RecordStep V → RecordRun V
  | .pushRaw clock metric value =>
      let call : RecordCall V := ⟨metric, ⟨clock.secs, value⟩⟩
      { w with
        store := w.store.pushRaw metric call.sample
        inFlight := w.inFlight ++ [call]
        entered := w.entered ++ [call] }
  | .rollMinute i =>
      match w.inFlight[i]? with
      | none => w
      | some call =>
          { w with
            store := w.store.rollMinute call.metric call.sample
            inFlight := w.inFlight.eraseIdx i
            rolled := w.rolled ++ [call] }

end RecordRun

/-! ## What the store is for -/

def samplesOf {V : Type} (calls : List (RecordCall V)) (metric : String) : List (Sample V) :=
  (calls.filter fun call => call.metric = metric).map RecordCall.sample

section Averages
variable {V : Type} [MetricValue V]

def minuteOf (sample : Sample V) : Nat := sample.tsSecs / 60

/-- The values of a run in their order; the first run of a metric starts from `0.0`. -/
def runTotal (i : Nat) : List (Sample V) → V
  | [] => 0
  | first :: rest =>
      rest.foldl (fun sum sample => sum + sample.value)
        (if i = 0 then 0 + first.value else first.value)

/-- The average stands at the beginning of its minute; the samples are counted modulo `2 ^ 32`, and
at 0 there is none. -/
def runAverage (i : Nat) (run : List (Sample V)) : Option (Sample V) :=
  let count := UInt32.ofNat run.length
  if 0 < count then
    some ⟨(run.head?.map minuteOf).getD 0 * 60, MetricValue.overCount (runTotal i run) count⟩
  else none

/-- The averages of the runs of samples of one minute that a sample of another minute ended. -/
def minuteAverages (samples : List (Sample V)) : List (Sample V) :=
  ((closedRuns minuteOf samples).mapIdx runAverage).reduceOption

/-- The newest of the list, with `none` for a metric without an entry. -/
def newest (n : Nat) (samples : List (Sample V)) : Option (List (Sample V)) :=
  if samples = [] then none else some (samples.rtake n)

/-- The queues hold the newest samples and the newest averages, and every call under way is missing
from the minutes and from nothing else. -/
structure RecordRun.Summarised (w : RecordRun V) : Prop where
  raw : ∀ metric, w.store.raw.get metric = newest rawCap (samplesOf w.entered metric)
  minute : ∀ metric, w.store.minute.get metric =
    newest minuteCap (minuteAverages (samplesOf w.rolled metric))
  counted : w.entered.Perm (w.rolled ++ w.inFlight)

/-! ## Samples and averages -/

omit [MetricValue V] in
theorem samplesOf_concat (calls : List (RecordCall V)) (call : RecordCall V) (metric : String) :
    samplesOf (calls ++ [call]) metric =
      samplesOf calls metric ++ if call.metric = metric then [call.sample] else [] := by
  rw [samplesOf, samplesOf, List.filter_append, List.map_append]
  congr 1
  split <;> simp [*]

omit [MetricValue V] in
theorem newest_push (n : Nat) (samples : List (Sample V)) (sample : Sample V) :
    some (popExcess n ((newest n samples).getD [] ++ [sample])) =
      newest n (samples ++ [sample]) := by
  have hne : samples ++ [sample] ≠ [] := by simp
  rw [newest, newest, if_neg hne, ← popExcess_push]
  split
  · rename_i hnil
    subst hnil
    simp
  · rfl

theorem runTotal_concat (i : Nat) (run : List (Sample V)) (sample : Sample V) (hne : run ≠ []) :
    runTotal i (run ++ [sample]) = runTotal i run + sample.value := by
  cases run with
  | nil => exact absurd rfl hne
  | cons first rest => rw [List.cons_append, runTotal, runTotal, List.foldl_append]; rfl

/-- The bucket of a metric sums up the run that is not over. -/
def bucketOf (samples : List (Sample V)) : Option (Nat × V × UInt32) :=
  let opened := openRun minuteOf samples
  opened.head?.map fun first =>
    (minuteOf first, runTotal (closedRuns minuteOf samples).length opened,
      UInt32.ofNat opened.length)

theorem bucketOf_some {samples : List (Sample V)} (hne : samples ≠ []) :
    ∃ first rest, openRun minuteOf samples = first :: rest ∧
      bucketOf samples = some (minuteOf first,
        runTotal (closedRuns minuteOf samples).length (first :: rest),
        UInt32.ofNat (first :: rest).length) := by
  cases hopen : openRun minuteOf samples with
  | nil => exact absurd hopen (openRun_ne_nil minuteOf samples hne)
  | cons first rest => exact ⟨first, rest, rfl, by rw [bucketOf, hopen]; rfl⟩

theorem roll_other {samples : List (Sample V)} {sample first : Sample V} {rest : List (Sample V)}
    (hopen : openRun minuteOf samples = first :: rest) (hother : minuteOf first ≠ minuteOf sample) :
    minuteAverages (samples ++ [sample]) = minuteAverages samples ++
        (runAverage (closedRuns minuteOf samples).length (first :: rest)).toList ∧
      bucketOf (samples ++ [sample]) = some (minuteOf sample, sample.value, 1) := by
  have hne : samples ≠ [] := by
    rintro rfl
    cases hopen
  have hfirst : first ∈ openRun minuteOf samples := by
    rw [hopen]
    exact List.mem_cons_self
  obtain ⟨hclosed, hlast⟩ := closedRuns_concat_other minuteOf samples sample hne fun b hb =>
    (openRun_key minuteOf hb hfirst).trans_ne hother
  constructor
  · rw [minuteAverages, hclosed, List.mapIdx_concat, hopen, List.reduceOption_append,
      List.reduceOption_singleton, minuteAverages]
  · rw [bucketOf, hlast, hclosed, List.length_append, List.length_singleton]
    rfl

theorem roll_same {samples : List (Sample V)} {sample first : Sample V} {rest : List (Sample V)}
    (hopen : openRun minuteOf samples = first :: rest) (hsame : minuteOf first = minuteOf sample) :
    minuteAverages (samples ++ [sample]) = minuteAverages samples ∧
      bucketOf (samples ++ [sample]) = some (minuteOf first,
        runTotal (closedRuns minuteOf samples).length (first :: rest) + sample.value,
        UInt32.ofNat (first :: rest).length + 1) := by
  have hne : samples ≠ [] := by
    rintro rfl
    cases hopen
  have hfirst : first ∈ openRun minuteOf samples := by
    rw [hopen]
    exact List.mem_cons_self
  obtain ⟨hclosed, hlast⟩ := closedRuns_concat_same minuteOf samples sample hne fun b hb =>
    (openRun_key minuteOf hb hfirst).trans hsame
  constructor
  · rw [minuteAverages, hclosed, minuteAverages]
  · rw [bucketOf, hlast, hclosed, hopen, ← runTotal_concat _ _ _ (List.cons_ne_nil first rest),
      List.length_append, UInt32.ofNat_add]
    rfl

theorem roll_first (sample : Sample V) : minuteAverages [sample] = [] ∧
    bucketOf [sample] = some (minuteOf sample, 0 + sample.value, 1) := ⟨rfl, rfl⟩

/-! ## One metric -/

structure Rolled (s : MetricsStore V) (metric : String) (samples : List (Sample V)) : Prop where
  minute : s.minute.get metric = newest minuteCap (minuteAverages samples)
  bucket : s.lastMinuteBucket.get metric = bucketOf samples

/-- A bucket whose count has come round to 0 leaves no average. -/
theorem pushAverage_get {s : MetricsStore V} {metric : String} {samples : List (Sample V)}
    (hminute : s.minute.get metric = newest minuteCap (minuteAverages samples))
    (i : Nat) (first : Sample V) (rest : List (Sample V)) :
    (if 0 < UInt32.ofNat (first :: rest).length then
        s.pushMinute metric ⟨minuteOf first * 60, MetricValue.overCount
          (runTotal i (first :: rest)) (UInt32.ofNat (first :: rest).length)⟩
      else s).minute.get metric =
      newest minuteCap (minuteAverages samples ++ (runAverage i (first :: rest)).toList) := by
  by_cases hcount : 0 < UInt32.ofNat (first :: rest).length
  · rw [runAverage, if_pos hcount, if_pos hcount, Option.toList_some, MetricsStore.pushMinute,
      get_insert, if_pos rfl, hminute, newest_push]
    rfl
  · rw [runAverage, if_neg hcount, if_neg hcount, Option.toList_none, List.append_nil, hminute]

theorem rollMinute_rolled {s : MetricsStore V} {metric : String} {samples : List (Sample V)}
    (h : Rolled s metric samples) (sample : Sample V) :
    Rolled (s.rollMinute metric sample) metric (samples ++ [sample]) := by
  by_cases hne : samples = []
  · subst hne
    have hbucket : s.lastMinuteBucket.get metric = none := h.bucket
    obtain ⟨haverages, hfirst⟩ := roll_first sample
    rw [MetricsStore.rollMinute, hbucket]
    refine ⟨?_, ?_⟩
    · rw [List.nil_append, haverages]
      simp only [ne_eq, not_true_eq_false, if_false, Option.getD_none]
      exact h.minute
    · rw [List.nil_append, hfirst]
      simp [minuteOf, get_insert]
  · obtain ⟨first, rest, hopen, hbucket⟩ := bucketOf_some hne
    rw [← h.bucket] at hbucket
    simp only [MetricsStore.rollMinute, hbucket, Option.getD_some]
    by_cases hsame : minuteOf first = sample.tsSecs / 60
    · obtain ⟨haverages, hnext⟩ := roll_same hopen hsame
      rw [if_neg (not_not.mpr hsame)]
      exact ⟨by rw [haverages]; exact h.minute, by rw [get_insert, if_pos rfl, hnext]⟩
    · obtain ⟨haverages, hnext⟩ := roll_other hopen hsame
      rw [if_pos hsame]
      refine ⟨?_, by rw [get_insert, if_pos rfl, hnext]; rfl⟩
      rw [haverages]
      exact pushAverage_get h.minute _ first rest

theorem rollMinute_cases (s : MetricsStore V) (metric : String) (sample : Sample V) :
    ∃ bucket, s.rollMinute metric sample =
        { s with lastMinuteBucket := s.lastMinuteBucket.insert metric bucket } ∨
      ∃ q, s.rollMinute metric sample =
        { s with
          minute := s.minute.insert metric q
          lastMinuteBucket := s.lastMinuteBucket.insert metric bucket } := by
  simp only [MetricsStore.rollMinute, MetricsStore.pushMinute]
  split
  · split
    · exact ⟨_, Or.inr ⟨_, rfl⟩⟩
    · exact ⟨_, Or.inl rfl⟩
  · exact ⟨_, Or.inl rfl⟩

theorem rollMinute_other {s : MetricsStore V} {metric other : String} {samples : List (Sample V)}
    (h : Rolled s other samples) (hne : other ≠ metric) (sample : Sample V) :
    Rolled (s.rollMinute metric sample) other samples := by
  obtain ⟨bucket, heq | ⟨q, heq⟩⟩ := rollMinute_cases s metric sample
  · rw [heq]
    exact ⟨h.minute, by rw [get_insert, if_neg hne]; exact h.bucket⟩
  · rw [heq]
    refine ⟨?_, ?_⟩
    · rw [get_insert, if_neg hne, h.minute]
    · rw [get_insert, if_neg hne, h.bucket]

theorem rollMinute_raw (s : MetricsStore V) (metric : String) (sample : Sample V) :
    (s.rollMinute metric sample).raw = s.raw := by
  obtain ⟨bucket, heq | ⟨q, heq⟩⟩ := rollMinute_cases s metric sample <;> rw [heq]

/-! ## Whole runs -/

namespace RecordRun

structure Kept (w : RecordRun V) : Prop where
  raw : ∀ metric, w.store.raw.get metric = newest rawCap (samplesOf w.entered metric)
  rolled : ∀ metric, Rolled w.store metric (samplesOf w.rolled metric)
  counted : w.entered.Perm (w.rolled ++ w.inFlight)

theorem kept_new : Kept ({} : RecordRun V) where
  raw := fun metric => get_empty metric
  rolled := fun metric => ⟨get_empty metric, get_empty metric⟩
  counted := List.Perm.refl _

theorem pushRaw_kept {w : RecordRun V} (h : w.Kept) (clock : UnixClock) (metric : String)
    (value : V) : (w.step (.pushRaw clock metric value)).Kept where
  raw := by
    intro other
    simp only [step, MetricsStore.pushRaw, get_insert, samplesOf_concat]
    by_cases hsame : other = metric
    · subst hsame
      rw [if_pos rfl, if_pos rfl, h.raw, newest_push]
    · rw [if_neg hsame, if_neg (Ne.symm hsame), List.append_nil, h.raw]
  rolled := fun other => ⟨(h.rolled other).minute, (h.rolled other).bucket⟩
  counted := by
    have hnext := h.counted.append_right [(⟨metric, clock.secs, value⟩ : RecordCall V)]
    rwa [List.append_assoc] at hnext

theorem rollMinute_kept {w : RecordRun V} (h : w.Kept) (i : Nat) :
    (w.step (.rollMinute i)).Kept := by
  rw [step]
  cases hcall : w.inFlight[i]? with
  | none => exact h
  | some call =>
      refine ⟨?_, ?_, ?_⟩
      · intro metric
        rw [rollMinute_raw, h.raw]
      · intro metric
        rw [samplesOf_concat]
        by_cases hsame : call.metric = metric
        · subst hsame
          rw [if_pos rfl]
          exact rollMinute_rolled (h.rolled call.metric) call.sample
        · rw [if_neg hsame, List.append_nil]
          exact rollMinute_other (h.rolled metric) (Ne.symm hsame) call.sample
      · obtain ⟨hi, rfl⟩ := List.getElem?_eq_some_iff.mp hcall
        rw [List.append_assoc]
        exact h.counted.trans ((List.getElem_cons_eraseIdx_perm hi).symm.append_left w.rolled)

theorem step_kept (w : RecordRun V) (event : RecordStep V) (h : w.Kept) : (w.step event).Kept := by
  cases event with
  | pushRaw clock metric value => exact pushRaw_kept h clock metric value
  | rollMinute i => exact rollMinute_kept h i

theorem run_kept (events : List (RecordStep V)) : Kept (run step ({} : RecordRun V) events) :=
  run_keeps step step_kept events {} kept_new

/-- However the parts of the calls are interleaved and whatever the clock says, the store holds the
newest 3600 samples and 1440 averages of every metric. -/
theorem run_summarised (events : List (RecordStep V)) :
    Summarised (run step ({} : RecordRun V) events) where
  raw := (run_kept events).raw
  minute := fun metric => ((run_kept events).rolled metric).minute
  counted := (run_kept events).counted

end RecordRun

/-! ## What leaves the store -/

def seriesOf (rolled entered : List (Sample V)) (since : Nat) (window resolution : String) :
    List (MetricSeriesPoint V) :=
  if usesMinute window resolution ∧ minuteAverages rolled ≠ [] then
    pointsSince since ((minuteAverages rolled).rtake minuteCap)
  else pointsSince since (entered.rtake rawCap)

namespace RecordRun

/-- Between the two locks of a query any calls may come. -/
theorem query_run (events later : List (RecordStep V)) (now : UnixClock)
    (metric window resolution : String) :
    let w := run step ({} : RecordRun V) events
    let w' := run step w later
    w.store.query w'.store now metric window resolution =
      seriesOf (samplesOf w.rolled metric) (samplesOf w'.entered metric)
        (now.secs - windowSecs window) window resolution := by
  intro w w'
  have hminute := ((run_kept events).rolled metric).minute
  have hraw : w'.store.raw.get metric = newest rawCap (samplesOf w'.entered metric) := by
    have hkept : Kept w' := run_keeps step step_kept later w (run_kept events)
    exact hkept.raw metric
  have hsamples : (match w'.store.raw.get metric with
      | some q => pointsSince (now.secs - windowSecs window) q
      | none => []) =
        pointsSince (now.secs - windowSecs window)
          ((samplesOf w'.entered metric).rtake rawCap) := by
    rw [hraw, newest]
    split <;> simp_all [pointsSince]
  rw [MetricsStore.query, seriesOf]
  by_cases huses : usesMinute window resolution = true
  · rw [if_pos huses, hminute, newest]
    by_cases hnone : minuteAverages (samplesOf w.rolled metric) = []
    · rw [if_pos hnone, if_neg (fun h => h.2 hnone)]
      exact hsamples
    · rw [if_neg hnone, if_pos ⟨huses, hnone⟩]
  · rw [if_neg huses, if_neg (fun h => huses h.1)]
    exact hsamples

theorem sublist_filterMap_keys {A B K : Type} {f : A → Option B} {key : A → K} {key' : B → K}
    (h : ∀ a b, f a = some b → key' b = key a) (rows : List A) :
    ((rows.filterMap f).map key').Sublist (rows.map key) := by
  induction rows with
  | nil => exact .slnil
  | cons row rest ih =>
      cases hrow : f row with
      | none =>
          rw [List.filterMap_cons_none hrow, List.map_cons]
          exact ih.cons (key row)
      | some b =>
          rw [List.filterMap_cons_some hrow, List.map_cons, List.map_cons, h row b hrow]
          exact ih.cons_cons (key row)

/-- With a file that opens, the line of each metric that has an average is written or begun, with
the last of its averages, and no metric has two lines. -/
theorem persistRollups_run (events : List (RecordStep V)) (o : Order) (answers : RollupAnswers) :
    let w := run step ({} : RecordRun V) events
    let lines := w.store.persistRollups o answers
    (∀ line cut, (line, cut) ∈ lines ↔
      answers.opens = true ∧ line.ts = answers.nowIso line.metric ∧ cut = answers.cut line.metric ∧
        (minuteAverages (samplesOf w.rolled line.metric)).getLast?.map Sample.value =
          some line.value) ∧
    (lines.map fun row => row.1.metric).Nodup := by
  intro w lines
  have hlast : ∀ samples : List (Sample V),
      (samples.rtake minuteCap).getLast? = samples.getLast? :=
    fun samples => getLast?_rtake 1439 samples
  have hminute : ∀ metric q, (metric, q) ∈ o.items w.store.minute ↔
      newest minuteCap (minuteAverages (samplesOf w.rolled metric)) = some q := by
    intro metric q
    rw [mem_order_items, ((run_kept events).rolled metric).minute]
  cases hopens : answers.opens with
  | false => simp [lines, MetricsStore.persistRollups, hopens]
  | true =>
      simp only [lines, MetricsStore.persistRollups, hopens, if_true, true_and]
      constructor
      · rintro ⟨ts, metric, value⟩ cut
        simp only [List.mem_filterMap, Option.map_eq_some_iff, Prod.exists, hminute, newest,
          Prod.mk.injEq, RollupLine.mk.injEq]
        constructor
        · intro h
          obtain ⟨key, samples, hsamples, sample, hsample, ⟨rfl, rfl, rfl⟩, rfl⟩ := h
          split at hsamples
          · cases hsamples
          · rw [← Option.some.inj hsamples, hlast] at hsample
            exact ⟨rfl, rfl, sample, hsample, rfl⟩
        · intro h
          obtain ⟨rfl, rfl, sample, hsample, rfl⟩ := h
          have hne : minuteAverages (samplesOf w.rolled metric) ≠ [] := by
            intro hnil
            rw [hnil] at hsample
            cases hsample
          exact ⟨metric, _, if_neg hne, sample, (hlast _).trans hsample, ⟨rfl, rfl, rfl⟩, rfl⟩
      · refine (order_keys_nodup o w.store.minute).sublist (sublist_filterMap_keys ?_ _)
        intro row line hline
        obtain ⟨sample, _, rfl⟩ := Option.map_eq_some_iff.mp hline
        rfl

end RecordRun

end Averages

end RouteGuard
