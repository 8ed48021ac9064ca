import Mathlib.Data.List.Induction

/-! # Lists cut at their headers

A list over an arbitrary alphabet, some of whose items are headers, is a front
without headers and sections that begin with one.  A scanner that starts anew at
each header can be run on the sections one by one. -/
set_option autoImplicit false
namespace Sections

variable {E : Type} (isHeader : E → Bool)

/-- The items before the first header, and the sections. -/
def cut : List E → List E × List (List E)
  | [] => ([], [])
  | item :: rest =>
      let (front, sections) := cut rest
      if isHeader item then ([], (item :: front) :: sections) else (item :: front, sections)

def parts (items : List E) : List (List E) := (cut isHeader items).1 :: (cut isHeader items).2

section Cut
variable {isHeader} {item : E}

theorem cut_header (h : isHeader item = true) (rest : List E) :
    cut isHeader (item :: rest) =
      ([], (item :: (cut isHeader rest).1) :: (cut isHeader rest).2) := by
  rw [cut]
  dsimp only
  rw [if_pos h]

theorem cut_item (h : isHeader item = false) (rest : List E) :
    cut isHeader (item :: rest) = (item :: (cut isHeader rest).1, (cut isHeader rest).2) := by
  rw [cut]
  dsimp only
  rw [if_neg (by simp [h])]

theorem parts_header (h : isHeader item = true) (rest : List E) :
    parts isHeader (item :: rest) =
      [] :: (item :: (cut isHeader rest).1) :: (cut isHeader rest).2 := by
  rw [parts, cut_header h]

theorem parts_item (h : isHeader item = false) (rest : List E) :
    parts isHeader (item :: rest) = (item :: (cut isHeader rest).1) :: (cut isHeader rest).2 := by
  rw [parts, cut_item h]

theorem flatten_parts (items : List E) : (parts isHeader items).flatten = items := by
  induction items with
  | nil => rfl
  | cons item rest ih =>
      rw [parts, List.flatten_cons] at ih
      cases h : isHeader item with
      | true =>
          rw [parts_header h, List.flatten_cons, List.flatten_cons, List.nil_append,
            List.cons_append, ih]
      | false => rw [parts_item h, List.flatten_cons, List.cons_append, ih]

theorem front_not_header (items : List E) :
    ∀ item ∈ (cut isHeader items).1, isHeader item = false := by
  induction items with
  | nil => intro item hmem; cases hmem
  | cons first rest ih =>
      intro item hmem
      cases h : isHeader first with
      | true =>
          rw [cut_header h] at hmem
          cases hmem
      | false =>
          rw [cut_item h] at hmem
          rcases List.mem_cons.mp hmem with rfl | hmem
          · exact h
          · exact ih item hmem

structure IsSection (isHeader : E → Bool) (items : List E) : Prop where
  split : ∃ header body, items = header :: body ∧ isHeader header = true ∧
    ∀ item ∈ body, isHeader item = false

theorem isSection_of_mem_cut (items : List E) :
    ∀ part ∈ (cut isHeader items).2, IsSection isHeader part := by
  induction items with
  | nil => intro part hmem; cases hmem
  | cons first rest ih =>
      intro part hmem
      cases h : isHeader first with
      | true =>
          rw [cut_header h] at hmem
          rcases List.mem_cons.mp hmem with rfl | hmem
          · exact ⟨first, (cut isHeader rest).1, rfl, h, front_not_header rest⟩
          · exact ih part hmem
      | false =>
          rw [cut_item h] at hmem
          exact ih part hmem

theorem cut_append_front {front : List E} (hfront : ∀ item ∈ front, isHeader item = false)
    (rest : List E) :
    cut isHeader (front ++ rest) = (front ++ (cut isHeader rest).1, (cut isHeader rest).2) := by
  induction front with
  | nil => rfl
  | cons item others ih =>
      rw [List.cons_append, cut_item (hfront item List.mem_cons_self),
        ih fun other hother => hfront other (List.mem_cons_of_mem _ hother)]
      rfl

/-- A front and sections, put together, are cut where they were put together. -/
theorem cut_flatten {front : List E} {sections : List (List E)}
    (hfront : ∀ item ∈ front, isHeader item = false)
    (hsections : ∀ part ∈ sections, IsSection isHeader part) :
    cut isHeader (front ++ sections.flatten) = (front, sections) := by
  have hall : cut isHeader sections.flatten = ([], sections) := by
    induction sections with
    | nil => rfl
    | cons part others ih =>
        obtain ⟨header, body, rfl, hheader, hbody⟩ := (hsections part List.mem_cons_self).split
        have hothers := ih fun other hother => hsections other (List.mem_cons_of_mem _ hother)
        rw [List.flatten_cons, List.cons_append, cut_header hheader, cut_append_front hbody,
          hothers]
        simp
  rw [cut_append_front hfront, hall, List.append_nil]

/-- A property of the items and what stands before them, from the first item on. -/
theorem forall_splits_cons {P : List E → E → Prop} {first : E} {rest : List E} :
    (∀ before item after, first :: rest = before ++ item :: after → P before item) ↔
      P [] first ∧
        ∀ before item after, rest = before ++ item :: after → P (first :: before) item := by
  constructor
  · intro h
    refine ⟨h [] first rest rfl, ?_⟩
    rintro before item after rfl
    exact h (first :: before) item after rfl
  · rintro ⟨hfirst, hrest⟩ before item after hsplit
    cases before with
    | nil =>
        cases hsplit
        exact hfirst
    | cons other before =>
        cases hsplit
        exact hrest before item after rfl

end Cut

/-! ## Scanners -/

section Scan
variable {S B : Type} (next : S → E → S) (out : S → E → Option B)

def outputs : S → List E → List B
  | _, [] => []
  | s, item :: rest => (out s item).toList ++ outputs (next s item) rest

/-- At a header the scanner does what it does there from the start. -/
structure Restarts (isHeader : E → Bool) (start : S) : Prop where
  next_eq : ∀ s item, isHeader item = true → next s item = next start item
  out_eq : ∀ s item, isHeader item = true → out s item = out start item

variable {isHeader next out}

theorem outputs_cut {start : S} (h : Restarts next out isHeader start) (s : S) (items : List E) :
    outputs next out s items =
      outputs next out s (cut isHeader items).1 ++
        (cut isHeader items).2.flatMap (outputs next out start) := by
  induction items generalizing s with
  | nil => rfl
  | cons item rest ih =>
      rw [outputs, ih]
      cases hitem : isHeader item with
      | true =>
          rw [cut_header hitem, h.next_eq s item hitem, h.out_eq s item hitem]
          simp only [outputs, List.nil_append, List.flatMap_cons, List.append_assoc]
      | false =>
          rw [cut_item hitem]
          simp only [outputs, List.append_assoc]

/-- Run on the parts one by one, the scanner yields the same. -/
theorem outputs_parts {start : S} (h : Restarts next out isHeader start) (items : List E) :
    outputs next out start items =
      (parts isHeader items).flatMap (outputs next out start) := by
  rw [outputs_cut h, parts, List.flatMap_cons]

/-- A variable that the items yielded were read into, one after the other. -/
structure LastWritten {K X : Type} (read : B → Except X K) (written : List B)
    (before after : Option K) : Prop where
  kept : written.getLast? = none → after = before
  last : ∀ b, written.getLast? = some b → ∃ k, read b = .ok k ∧ after = some k

section LastWritten
variable {K X : Type} {read : B → Except X K}

theorem LastWritten.nothing (var : Option K) : LastWritten read [] var var :=
  ⟨fun _ => rfl, fun b hlast => by cases hlast⟩

theorem LastWritten.single {b : B} {k : K} (h : read b = .ok k) (before : Option K) :
    LastWritten read [b] before (some k) := by
  constructor
  · intro hlast
    cases hlast
  · intro c hlast
    cases hlast
    exact ⟨k, h, rfl⟩

theorem LastWritten.append {first second : List B} {before middle after : Option K}
    (hfirst : LastWritten read first before middle)
    (hsecond : LastWritten read second middle after) :
    LastWritten read (first ++ second) before after := by
  cases hlast : second.getLast? with
  | none =>
      rw [List.getLast?_eq_none_iff.mp hlast, List.append_nil, hsecond.kept hlast]
      exact hfirst
  | some b =>
      have hlast' : (first ++ second).getLast? = some b := by
        rw [List.getLast?_append, hlast, Option.some_or]
      constructor
      · intro hnone
        rw [hlast'] at hnone
        cases hnone
      · intro c hc
        rw [hlast'] at hc
        cases hc
        exact hsecond.last b hlast

theorem LastWritten.read_last {written : List B} {k : K}
    (h : LastWritten read written none (some k)) :
    ∃ b, written.getLast? = some b ∧ read b = .ok k := by
  cases hlast : written.getLast? with
  | none =>
      have hkept := h.kept hlast
      cases hkept
  | some b =>
      obtain ⟨k', hread, heq⟩ := h.last b hlast
      cases heq
      exact ⟨b, rfl, hread⟩

variable (next out) in
/-- A run that reads into a variable what the scanner yields, and fails where it cannot. -/
theorem foldlM_lastWritten {R Y : Type} {step : R → E → Except Y R} (state : R → S)
    (var : R → Option K)
    (hstate : ∀ r item r', step r item = .ok r' → state r' = next (state r) item)
    (hvar : ∀ r item r', step r item = .ok r' →
      LastWritten read (out (state r) item).toList (var r) (var r'))
    (items : List E) {r r' : R} (hrun : items.foldlM step r = .ok r') :
    LastWritten read (outputs next out (state r) items) (var r) (var r') := by
  induction items generalizing r with
  | nil =>
      cases hrun
      exact .nothing _
  | cons item rest ih =>
      rw [List.foldlM_cons] at hrun
      cases hitem : step r item with
      | error e =>
          rw [hitem] at hrun
          cases hrun
      | ok middle =>
          rw [hitem] at hrun
          have hrest := ih hrun
          rw [hstate r item middle hitem] at hrest
          exact (hvar r item middle hitem).append hrest

end LastWritten

end Scan

/-! ## The part something stands in -/

section Tagged
variable {P B : Type} (values : P → List B)

/-- What the parts yield, each with the number of its part. -/
def tagged (ps : List P) : List (Nat × B) :=
  ps.zipIdx.flatMap fun (p, i) => (values p).map fun b => (i, b)

theorem map_snd_tagged (ps : List P) : (tagged values ps).map Prod.snd = ps.flatMap values := by
  have hshift : ∀ n, ((ps.zipIdx n).flatMap fun (p, i) => (values p).map fun b => (i, b)).map
      Prod.snd = ps.flatMap values := by
    induction ps with
    | nil => intro n; rfl
    | cons p rest ih =>
        intro n
        rw [List.zipIdx_cons, List.flatMap_cons, List.flatMap_cons, List.map_append, ih,
          List.map_map]
        exact congrArg (· ++ _) (List.map_id _)
  exact hshift 0

theorem tagged_append (before : List P) (p : P) (after : List P) :
    tagged values (before ++ p :: after) =
      tagged values before ++ (values p).map (fun b => (before.length, b)) ++
        (after.zipIdx (before.length + 1)).flatMap fun (q, i) =>
          (values q).map fun b => (i, b) := by
  rw [tagged, List.zipIdx_append, List.zipIdx_cons, List.flatMap_append, List.flatMap_cons,
    List.append_assoc, Nat.zero_add]
  rfl

variable {values}

theorem tagged_eq_nil_iff {ps : List P} : tagged values ps = [] ↔ ∀ p ∈ ps, values p = [] := by
  rw [← List.map_eq_nil_iff, map_snd_tagged, List.flatMap_eq_nil_iff]

theorem tagged_concat (ps : List P) (p : P) :
    tagged values (ps ++ [p]) = tagged values ps ++ (values p).map fun b => (ps.length, b) := by
  rw [tagged_append, List.zipIdx_nil, List.flatMap_nil, List.append_nil]

theorem getLast?_tagged {ps : List P} {i : Nat} {b : B} :
    (tagged values ps).getLast? = some (i, b) ↔
      ∃ before p after, ps = before ++ p :: after ∧ before.length = i ∧
        (values p).getLast? = some b ∧ ∀ q ∈ after, values q = [] := by
  constructor
  · intro h
    induction ps using List.reverseRecOn with
    | nil => cases h
    | append_singleton ps p ih =>
        rw [tagged_concat, List.getLast?_append, List.getLast?_map] at h
        cases hlast : (values p).getLast? with
        | none =>
            rw [hlast, Option.map_none, Option.none_or] at h
            obtain ⟨before, q, after, rfl, hlength, hq, hafter⟩ := ih h
            refine ⟨before, q, after ++ [p], by simp, hlength, hq, ?_⟩
            intro other hother
            rcases List.mem_append.mp hother with hother | hother
            · exact hafter other hother
            · rw [List.mem_singleton.mp hother]
              exact List.getLast?_eq_none_iff.mp hlast
        | some c =>
            rw [hlast, Option.map_some, Option.some_or] at h
            cases h
            exact ⟨ps, p, [], rfl, rfl, hlast, fun other hother => by cases hother⟩
  · rintro ⟨before, p, after, rfl, rfl, hlast, hafter⟩
    have hnone : ((after.zipIdx (before.length + 1)).flatMap fun (q, i) =>
        (values q).map fun b => (i, b)) = [] := by
      rw [List.flatMap_eq_nil_iff]
      rintro ⟨q, i⟩ hmem
      have hq : q ∈ after := List.fst_mem_of_mem_zipIdx hmem
      simp [hafter q hq]
    rw [tagged_append, hnone, List.append_nil, List.getLast?_append, List.getLast?_map, hlast]
    rfl

theorem head?_tagged {ps : List P} {i : Nat} {b : B} :
    (tagged values ps).head? = some (i, b) ↔
      ∃ before p after, ps = before ++ p :: after ∧ before.length = i ∧
        (values p).head? = some b ∧ ∀ q ∈ before, values q = [] := by
  constructor
  · intro h
    induction ps using List.reverseRecOn with
    | nil => cases h
    | append_singleton ps p ih =>
        rw [tagged_concat, List.head?_append] at h
        cases hfirst : (tagged values ps).head? with
        | some first =>
            rw [hfirst, Option.some_or, ← hfirst] at h
            obtain ⟨before, q, after, rfl, hlength, hq, hbefore⟩ := ih h
            exact ⟨before, q, after ++ [p], by simp, hlength, hq, hbefore⟩
        | none =>
            rw [hfirst, Option.none_or, List.head?_map] at h
            obtain ⟨c, hc, heq⟩ := Option.map_eq_some_iff.mp h
            cases heq
            exact ⟨ps, p, [], rfl, rfl, hc, tagged_eq_nil_iff.mp (List.head?_eq_none_iff.mp hfirst)⟩
  · rintro ⟨before, p, after, rfl, rfl, hfirst, hbefore⟩
    rw [tagged_append, tagged_eq_nil_iff.mpr hbefore, List.nil_append, List.head?_append,
      List.head?_map, hfirst]
    rfl

end Tagged
end Sections
