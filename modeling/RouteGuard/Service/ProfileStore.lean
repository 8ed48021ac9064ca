import RouteGuard.Core.Conf
import RouteGuard.Lib.Fallible

/-! # The profile vault

`profile_store.rs`: an index of profiles by name, and a file for the text of
each, at a path made of the name.  `fileOf` is the file that a path denotes; two
paths may denote one file. -/
set_option autoImplicit false
namespace RouteGuard

open Fallible GuardedRun

/-! ## The file system -/

/-- The answer to `fs::write`; a write may stop after some bytes. -/
inductive WriteAnswer where
  | done
  | refused (e : String)
  | cut (bytes : Nat) (e : String)
deriving DecidableEq, Repr

def WriteAnswer.failure : WriteAnswer → Option String
  | .done => none
  | .refused e => some e
  | .cut _ e => some e

/-- What the file system answers to the calls of one operation: the text of an error, or none.
`indexSeen` is the answer of `exists` where there is an index. -/
structure FsAnswers where
  createDir : Option String := none
  writeConf : WriteAnswer := .done
  indexSeen : Bool := true
  readIndex : Option String := none
  createIndexDir : Option String := none
  writeIndex : WriteAnswer := .done
  readConf : Option String := none
  removeConf : Option String := none
  /-- the error for contents that are not there or cannot be decoded -/
  noContents : String := ""
  freshId : String := ""
deriving DecidableEq, Repr

/-- The first bytes of a text, where they end with a character. -/
def cutChars : List Char → Nat → Option (List Char)
  | [], _ => some []
  | _ :: _, 0 => some []
  | c :: rest, bytes + 1 =>
      if c.utf8Size ≤ bytes + 1 then (cutChars rest (bytes + 1 - c.utf8Size)).map (c :: ·) else none

/-- A file holds a text or bytes that are none. -/
abbrev FileContents := Option String

def WriteAnswer.leaves (answer : WriteAnswer) (before : Option FileContents) (text : String) :
    Option FileContents :=
  match answer with
  | .done => some (some text)
  | .refused _ => before
  | .cut bytes _ => some ((cutChars text.toList bytes).map String.ofList)

def FsAnswers.removed (fs : FsAnswers) (before : Option FileContents) : Option FileContents :=
  if fs.removeConf = none then none else before

/-- `profiles.json`; a cut-off one cannot be parsed. -/
inductive IndexFile where
  | missing
  | profiles (index : List TunnelProfile)
  | unreadable
deriving DecidableEq, Repr

structure Vault (F : Type) where
  index : IndexFile := .missing
  files : F → Option FileContents := fun _ => none

abbrev VaultProg (F A : Type) := Prog (Vault F) RouteGuardError A

/-! ## Operations -/

def profilesDir : String := "C:\\ProgramData\\RouteGuard\\profiles"

/-- `profiles_dir().join(..)`; what an absolute name denotes is for `fileOf` to say. -/
def profileConfPath (name : String) : String := profilesDir ++ "\\" ++ name ++ ".conf"

structure ProfileImportParams where
  confText : String
  name : Option String := none
  backend : Option TunnelBackendPreference := none
  transport : Option TunnelTransportConfig := none
deriving DecidableEq, Repr

structure ProfileExportParams where
  name : String
  mode : String := "full"
deriving DecidableEq, Repr

/-- The name in the parameters unless it is empty, else a new one. -/
def ProfileImportParams.nameOr (params : ProfileImportParams) (freshId : String) : String :=
  (params.name.filter fun n => decide (n ≠ "")).getD ("profile-" ++ freshId)

def sanitizeConf (text : String) : String :=
  "\n".intercalate ((lines text).filter fun line =>
    !startsWith (toAsciiLowercase line) "privatekey" &&
      !startsWith (toAsciiLowercase line) "presharedkey") ++ "\n"

section Operations
variable {F : Type} [DecidableEq F] (fileOf : String → F) (fs : FsAnswers)

def fsCall (answer : Option String) : VaultProg F Unit :=
  fromResult (match answer with
    | none => .ok ()
    | some e => .error (.io e))

def loadIndex : VaultProg F (List TunnelProfile) := do
  let vault ← get
  match vault.index with
  | .missing => pure []
  | .profiles index =>
      if fs.indexSeen then do
        fsCall fs.readIndex
        pure index
      else pure []
  | .unreadable =>
      if fs.indexSeen then throw (.serdeJson fs.noContents) else pure []

def saveIndex (index : List TunnelProfile) : VaultProg F Unit := do
  fsCall fs.createIndexDir
  modify fun vault =>
    match fs.writeIndex with
    | .done => { vault with index := .profiles index }
    | .refused _ => vault
    | .cut _ _ => { vault with index := .unreadable }
  fsCall fs.writeIndex.failure

def writeConf (path text : String) : VaultProg F Unit := do
  modify fun vault => { vault with
    files := Function.update vault.files (fileOf path)
      (fs.writeConf.leaves (vault.files (fileOf path)) text) }
  fsCall fs.writeConf.failure

/-- `describe` is what the validation makes of the parameters: the merged transport, or the error
of a text that it rejects. -/
def importProfile
    (describe : ProfileImportParams → Except RouteGuardError TunnelTransportConfig)
    (params : ProfileImportParams) : VaultProg F TunnelProfile := do
  let transport ← fromResult (describe params)
  let name := params.nameOr fs.freshId
  fsCall fs.createDir
  writeConf fileOf fs (profileConfPath name) params.confText
  let profile : TunnelProfile :=
    ⟨name, params.backend.getD .auto, profileConfPath name, some transport⟩
  let index ← loadIndex fs
  saveIndex fs (index.filter (fun p => decide (p.name ≠ name)) ++ [profile])
  pure profile

def getProfile (name : String) : VaultProg F (Option TunnelProfile) := do
  let index ← loadIndex fs
  pure (index.find? fun p => decide (p.name = name))

def exportProfile (params : ProfileExportParams) : VaultProg F String := do
  match ← getProfile fs params.name with
  | none => throw (.config ("profile not found: " ++ params.name))
  | some profile =>
      fsCall fs.readConf
      let vault ← get
      match (vault.files (fileOf profile.configPath)).join with
      | none => throw (.io fs.noContents)
      | some text => pure (if params.mode = "sanitized" then sanitizeConf text else text)

/-- An error of `remove_file` is ignored. -/
def deleteProfile (name : String) : VaultProg F Unit := do
  let index ← loadIndex fs
  match index.find? fun p => decide (p.name = name) with
  | none => pure ()
  | some profile =>
      modify fun vault =>
        if fs.removeConf.isNone then
          { vault with files := Function.update vault.files (fileOf profile.configPath) none }
        else vault
      saveIndex fs (index.eraseP fun p => decide (p.name = name))

/-! ## What a name maps to -/

/-- What a full export of the name returns while the file system answers. -/
def fullExport (vault : Vault F) (name : String) : Option String :=
  (exec (exportProfile fileOf {} ⟨name, "full"⟩) vault).1.toOption

end Operations

inductive VaultOp where
  | importProfile (params : ProfileImportParams)
  | exportProfile (params : ProfileExportParams)
  | getProfile (name : String)
  | deleteProfile (name : String)
deriving DecidableEq, Repr

structure VaultCall where
  op : VaultOp
  fs : FsAnswers := {}
deriving DecidableEq, Repr

/-- `stored` keeps, for each name, the text of the last import that returned `Ok` and that no
deletion that returned `Ok` followed. -/
structure VaultRun (F : Type) where
  vault : Vault F := {}
  stored : String → Option String := fun _ => none

namespace VaultRun
variable {F : Type} [DecidableEq F] (fileOf : String → F)
  (describe : ProfileImportParams → Except RouteGuardError TunnelTransportConfig)

def step (w : VaultRun F) (call : VaultCall) : VaultRun F :=
  match call.op with
  | .importProfile params =>
      match exec (RouteGuard.importProfile fileOf call.fs describe params) w.vault with
      | (.ok profile, vault) => ⟨vault, Function.update w.stored profile.name params.confText⟩
      | (.error _, vault) => { w with vault := vault }
  | .exportProfile params =>
      { w with vault := (exec (RouteGuard.exportProfile fileOf call.fs params) w.vault).2 }
  | .getProfile name => { w with vault := (exec (RouteGuard.getProfile call.fs name) w.vault).2 }
  | .deleteProfile name =>
      match exec (RouteGuard.deleteProfile fileOf call.fs name) w.vault with
      | (.ok _, vault) => ⟨vault, Function.update w.stored name none⟩
      | (.error _, vault) => { w with vault := vault }

def Maps (w : VaultRun F) : Prop := ∀ name, fullExport fileOf w.vault name = w.stored name

end VaultRun

/-! ## Calls that harm no other profile -/

section Harm
variable {F : Type} [DecidableEq F] (fileOf : String → F)

def Vault.listed (vault : Vault F) : List TunnelProfile :=
  match vault.index with
  | .profiles index => index
  | _ => []

def Vault.textOf (vault : Vault F) (profile : TunnelProfile) : Option String :=
  (vault.files (fileOf profile.configPath)).join

def Vault.loaded (vault : Vault F) (fs : FsAnswers) : Except RouteGuardError (List TunnelProfile) :=
  (exec (loadIndex fs) vault).1

/-- What becomes of the index: it is left, replaced by a new one, or cut off. -/
inductive IndexFate where
  | left
  | replaced
  | lost
deriving DecidableEq, Repr

/-- `reached` says that the operation comes to its `save_index`. -/
def FsAnswers.indexFate (fs : FsAnswers) (reached : Bool) : IndexFate :=
  if reached ∧ fs.createIndexDir = none then
    match fs.writeIndex with
    | .done => .replaced
    | .refused _ => .left
    | .cut _ _ => .lost
  else .left

/-- A profile behind whose path the file is finds its own text in it. -/
def Vault.Spares (vault : Vault F) (file : F) (text : Option String) (profile : TunnelProfile) :
    Prop :=
  fileOf profile.configPath = file → vault.textOf fileOf profile = text

/-- Of the listed profiles no text is lost: where the operation on `name` leaves `text` in `file`,
the other profiles have that text there or another file, and so has the profile of that name where
the operation fails. -/
def Vault.Harmless (vault : Vault F) (name : String) (file : F) (text : Option String)
    (seen : Bool) : IndexFate → Prop
  | .left => ∀ p ∈ vault.listed, vault.Spares fileOf file text p
  | .replaced => ∀ p ∈ vault.listed, p.name ≠ name →
      if seen then vault.Spares fileOf file text p else vault.textOf fileOf p = none
  | .lost => ∀ p ∈ vault.listed, vault.textOf fileOf p = none

def Vault.importHarmless (vault : Vault F) (fs : FsAnswers) (params : ProfileImportParams) : Prop :=
  let name := params.nameOr fs.freshId
  let file := fileOf (profileConfPath name)
  vault.Harmless fileOf name file
    (fs.writeConf.leaves (vault.files file) params.confText).join fs.indexSeen
    (fs.indexFate (fs.writeConf = .done && (vault.loaded fs).isOk))

/-- A deletion that does not find the name deletes no text by answering `Ok`. -/
def Vault.deleteHarmless (vault : Vault F) (fs : FsAnswers) (name : String) : Prop :=
  match vault.loaded fs with
  | .error _ => True
  | .ok index =>
      match index.find? fun p => decide (p.name = name) with
      | none => ∀ p ∈ vault.listed, p.name = name → vault.textOf fileOf p = none
      | some profile =>
          let file := fileOf profile.configPath
          vault.Harmless fileOf name file (fs.removed (vault.files file)).join fs.indexSeen
            (fs.indexFate true)

/-- The call leaves every name but its own as it is, and its own too where it fails. -/
def VaultRun.Harmless
    (describe : ProfileImportParams → Except RouteGuardError TunnelTransportConfig)
    (w : VaultRun F) (call : VaultCall) : Prop :=
  match call.op with
  | .importProfile params =>
      (describe params).isOk → call.fs.createDir = none →
        w.vault.importHarmless fileOf call.fs params
  | .deleteProfile name => w.vault.deleteHarmless fileOf call.fs name
  | _ => True

end Harm

/-! ## The calls in terms of the index and one file -/

section Effects
variable {F : Type} {fileOf : String → F} {fs : FsAnswers} {vault : Vault F}

def Vault.lookup (vault : Vault F) (name : String) : Option TunnelProfile :=
  vault.listed.find? fun p => decide (p.name = name)

def Vault.indexed (vault : Vault F) (index : List TunnelProfile) : IndexFate → Vault F
  | .left => vault
  | .replaced => { vault with index := .profiles index }
  | .lost => { vault with index := .unreadable }

theorem exec_fsCall (answer : Option String) (vault : Vault F) :
    exec (fsCall answer) vault = (answer.elim (.ok ()) fun e => .error (.io e), vault) := by
  cases answer <;> rfl

def FsAnswers.loads (fs : FsAnswers) : IndexFile → Except RouteGuardError (List TunnelProfile)
  | .missing => .ok []
  | .profiles index =>
      if fs.indexSeen then fs.readIndex.elim (.ok index) fun e => .error (.io e) else .ok []
  | .unreadable => if fs.indexSeen then .error (.serdeJson fs.noContents) else .ok []

theorem exec_loadIndex_eq : exec (loadIndex fs) vault = (fs.loads vault.index, vault) := by
  simp only [loadIndex, exec_bind, exec_get]
  cases vault.index with
  | missing => rfl
  | profiles index =>
      dsimp only [FsAnswers.loads]
      split
      · rw [exec_bind, exec_fsCall]
        cases fs.readIndex <;> rfl
      · rfl
  | unreadable =>
      dsimp only [FsAnswers.loads]
      split <;> rfl

theorem loaded_eq : vault.loaded fs = fs.loads vault.index := congrArg Prod.fst exec_loadIndex_eq

theorem exec_loadIndex : exec (loadIndex fs) vault = (vault.loaded fs, vault) := by
  rw [exec_loadIndex_eq, loaded_eq]

theorem loaded_of_seen {index : List TunnelProfile} (h : vault.loaded fs = .ok index)
    (hseen : fs.indexSeen = true) : index = vault.listed := by
  rw [loaded_eq] at h
  cases hindex : vault.index with
  | missing =>
      rw [hindex] at h
      simpa only [Vault.listed, hindex] using (Except.ok.inj h).symm
  | profiles listed =>
      rw [hindex, FsAnswers.loads, if_pos hseen] at h
      cases hread : fs.readIndex with
      | none =>
          rw [hread] at h
          simpa only [Vault.listed, hindex] using (Except.ok.inj h).symm
      | some e =>
          rw [hread] at h
          cases h
  | unreadable =>
      rw [hindex, FsAnswers.loads, if_pos hseen] at h
      cases h

theorem loaded_of_unseen {index : List TunnelProfile} (h : vault.loaded fs = .ok index)
    (hseen : fs.indexSeen = false) : index = [] := by
  have hempty : fs.loads vault.index = .ok [] := by
    cases vault.index <;> simp [FsAnswers.loads, hseen]
  rw [loaded_eq, hempty] at h
  exact (Except.ok.inj h).symm

theorem exec_saveIndex (fs : FsAnswers) (vault : Vault F) (index : List TunnelProfile) : ∃ result,
    exec (saveIndex fs index) vault = (result, vault.indexed index (fs.indexFate true)) ∧
      (fs.indexFate true = .replaced → result = .ok ()) ∧
      (fs.indexFate true ≠ .replaced → ∃ e, result = .error e) := by
  simp only [saveIndex, exec_bind, exec_fsCall, exec_modify, FsAnswers.indexFate]
  cases fs.createIndexDir with
  | some e => exact ⟨.error (.io e), rfl, by simp, fun _ => ⟨.io e, rfl⟩⟩
  | none =>
      cases fs.writeIndex with
      | done => exact ⟨.ok (), rfl, fun _ => rfl, by simp⟩
      | refused e => exact ⟨.error (.io e), rfl, by simp, fun _ => ⟨.io e, rfl⟩⟩
      | cut bytes e => exact ⟨.error (.io e), rfl, by simp, fun _ => ⟨.io e, rfl⟩⟩

theorem fullExport_eq (name : String) :
    fullExport fileOf vault name = (vault.lookup name).bind (vault.textOf fileOf) := by
  simp only [fullExport, exportProfile, getProfile, exec_bind, exec_loadIndex]
  cases hloaded : vault.loaded {} with
  | error e =>
      have hlisted : vault.listed = [] := by
        cases hindex : vault.index with
        | missing => simp only [Vault.listed, hindex]
        | unreadable => simp only [Vault.listed, hindex]
        | profiles index =>
            rw [loaded_eq, hindex] at hloaded
            cases hloaded
      simp only [Vault.lookup, hlisted, List.find?_nil]
      rfl
  | ok index =>
      rw [loaded_of_seen hloaded rfl]
      simp only [exec_pure, Vault.lookup]
      cases hfind : vault.listed.find? fun p => decide (p.name = name) with
      | none => rfl
      | some profile =>
          simp only [exec_bind, exec_fsCall, exec_get, Option.elim_none, Option.bind_some,
            Vault.textOf]
          cases (vault.files (fileOf profile.configPath)).join with
          | none => rfl
          | some text => rfl

def Vault.Unique (vault : Vault F) : Prop := (vault.listed.map TunnelProfile.name).Nodup

theorem find?_unique {index : List TunnelProfile} (h : (index.map TunnelProfile.name).Nodup)
    {p : TunnelProfile} (hp : p ∈ index) :
    index.find? (fun q => decide (q.name = p.name)) = some p := by
  induction index with
  | nil => cases hp
  | cons first rest ih =>
      rw [List.map_cons, List.nodup_cons] at h
      rcases List.mem_cons.mp hp with rfl | hp
      · simp
      · have hne : first.name ≠ p.name := by
          intro hsame
          exact h.1 (hsame ▸ List.mem_map_of_mem hp)
        simp only [List.find?_cons, hne, decide_false]
        exact ih h.2 hp

theorem lookup_iff (hunique : vault.Unique) {name : String} {p : TunnelProfile} :
    vault.lookup name = some p ↔ p ∈ vault.listed ∧ p.name = name := by
  constructor
  · intro hfind
    exact ⟨List.mem_of_find?_eq_some hfind, by simpa using List.find?_some hfind⟩
  · rintro ⟨hmem, rfl⟩
    exact find?_unique hunique hmem

theorem eraseP_eq_filter {index : List TunnelProfile}
    (h : (index.map TunnelProfile.name).Nodup) (name : String) :
    (index.eraseP fun p => decide (p.name = name)) =
      index.filter fun p => decide (p.name ≠ name) := by
  induction index with
  | nil => rfl
  | cons p rest ih =>
      rw [List.map_cons, List.nodup_cons] at h
      by_cases hp : p.name = name
      · have hrest : (rest.filter fun q => decide (q.name ≠ name)) = rest := by
          rw [List.filter_eq_self]
          intro q hq
          have hne : q.name ≠ name := fun hsame =>
            h.1 (hp ▸ hsame ▸ List.mem_map_of_mem hq)
          exact decide_eq_true hne
        simp only [List.eraseP_cons, hp, decide_true, List.filter_cons, ne_eq,
          not_true_eq_false, decide_false, Bool.false_eq_true, if_false]
        exact hrest.symm
      · simp only [List.eraseP_cons, hp, decide_false, cond_false, List.filter_cons, ne_eq,
          not_false_eq_true, decide_true, if_true, ih h.2]

theorem reached_of_replaced {reached : Bool} (h : fs.indexFate reached = .replaced) :
    reached = true := by
  cases reached with
  | true => rfl
  | false => simp [FsAnswers.indexFate] at h

theorem import_reached (vault : Vault F) (fs : FsAnswers)
    (h : fs.indexFate (fs.writeConf = .done && (vault.loaded fs).isOk) = .replaced) :
    fs.writeConf = .done ∧ ∃ index, vault.loaded fs = .ok index := by
  have hreached := reached_of_replaced h
  rw [Bool.and_eq_true, decide_eq_true_eq] at hreached
  refine ⟨hreached.1, ?_⟩
  cases hload : vault.loaded fs with
  | error e =>
      rw [hload] at hreached
      cases hreached.2
  | ok index => exact ⟨index, rfl⟩

theorem find?_filter_ne (index : List TunnelProfile) {name n : String} (hn : n ≠ name) :
    (index.filter fun p => decide (p.name ≠ name)).find? (fun p => decide (p.name = n)) =
      index.find? fun p => decide (p.name = n) := by
  induction index with
  | nil => rfl
  | cons p rest ih =>
      by_cases hp : p.name = name
      · have hother : p.name ≠ n := fun hsame => hn (hsame ▸ hp)
        simp only [List.filter_cons, hp, ne_eq, not_true_eq_false, decide_false,
          Bool.false_eq_true, if_false, List.find?_cons]
        rw [← hp, decide_eq_false hother]
        simpa [hp] using ih
      · simp only [List.filter_cons, hp, ne_eq, not_false_eq_true, decide_true, if_true,
          List.find?_cons]
        rw [show (rest.filter fun p => decide (¬ p.name = name)) =
          rest.filter fun p => decide (p.name ≠ name) from rfl, ih]

theorem find?_erased {index : List TunnelProfile} (h : (index.map TunnelProfile.name).Nodup)
    {name n : String} (hn : n ≠ name) :
    (index.eraseP fun p => decide (p.name = name)).find? (fun p => decide (p.name = n)) =
      index.find? fun p => decide (p.name = n) := by
  rw [eraseP_eq_filter h, find?_filter_ne index hn]

theorem fullExport_erased {index : List TunnelProfile} (h : (index.map TunnelProfile.name).Nodup)
    (name : String) : fullExport fileOf
      (vault.indexed (index.eraseP fun p => decide (p.name = name)) .replaced) name = none := by
  have hlookup : (vault.indexed (index.eraseP fun p => decide (p.name = name)) .replaced).lookup
      name = none := by
    change (index.eraseP fun p => decide (p.name = name)).find? (fun p => decide (p.name = name)) =
      none
    rw [eraseP_eq_filter h, List.find?_eq_none]
    intro p hp
    simpa using (List.mem_filter.mp hp).2
  rw [fullExport_eq, hlookup, Option.bind_none]

theorem exec_getProfile (name : String) : exec (getProfile fs name) vault =
    ((vault.loaded fs).map fun index => index.find? fun p => decide (p.name = name), vault) := by
  simp only [getProfile, exec_bind, exec_loadIndex]
  cases vault.loaded fs <;> rfl

theorem exportProfile_stays (params : ProfileExportParams) :
    (exec (exportProfile fileOf fs params) vault).2 = vault := by
  simp only [exportProfile, exec_bind, exec_getProfile]
  cases vault.loaded fs with
  | error e => rfl
  | ok index =>
      simp only [Except.map]
      cases index.find? fun p => decide (p.name = params.name) with
      | none => rfl
      | some profile =>
          simp only [exec_bind, exec_fsCall, exec_get]
          cases fs.readConf with
          | some e => rfl
          | none =>
              simp only [Option.elim_none]
              cases (vault.files (fileOf profile.configPath)).join <;> rfl

def Vault.imported (vault : Vault F) (fs : FsAnswers) (profile : TunnelProfile) :
    List TunnelProfile :=
  ((vault.loaded fs).toOption.getD []).filter (fun p => decide (p.name ≠ profile.name)) ++ [profile]

theorem Vault.Unique.indexed (hunique : vault.Unique) {index : List TunnelProfile}
    {fate : IndexFate} (hindex : (index.map TunnelProfile.name).Nodup) :
    (vault.indexed index fate).Unique := by
  cases fate with
  | left => exact hunique
  | replaced => exact hindex
  | lost => exact List.nodup_nil

theorem loaded_sublist {index : List TunnelProfile} (h : vault.loaded fs = .ok index) :
    index.Sublist vault.listed := by
  cases hseen : fs.indexSeen with
  | true => rw [loaded_of_seen h hseen]
  | false =>
      rw [loaded_of_unseen h hseen]
      exact List.nil_sublist _

theorem loaded_unique (hunique : vault.Unique) {index : List TunnelProfile}
    (h : vault.loaded fs = .ok index) : (index.map TunnelProfile.name).Nodup :=
  hunique.sublist ((loaded_sublist h).map _)

theorem find?_loaded {index : List TunnelProfile} (h : vault.loaded fs = .ok index)
    (name : String) :
    index.find? (fun p => decide (p.name = name)) =
      if fs.indexSeen then vault.lookup name else none := by
  cases hseen : fs.indexSeen with
  | true =>
      rw [loaded_of_seen h hseen]
      rfl
  | false =>
      rw [loaded_of_unseen h hseen]
      rfl

theorem find?_imported {index : List TunnelProfile} {profile : TunnelProfile}
    (h : vault.loaded fs = .ok index) {n : String} (hn : n ≠ profile.name) :
    (vault.imported fs profile).find? (fun p => decide (p.name = n)) =
      if fs.indexSeen then vault.lookup n else none := by
  have hlast : decide (profile.name = n) = false := decide_eq_false fun hsame => hn hsame.symm
  rw [← find?_loaded h, Vault.imported, h, List.find?_append, Except.toOption, Option.getD_some,
    find?_filter_ne index hn]
  simp [hlast]

theorem find?_imported_self (profile : TunnelProfile) :
    (vault.imported fs profile).find? (fun p => decide (p.name = profile.name)) = some profile := by
  have hfront : (((vault.loaded fs).toOption.getD []).filter fun p =>
      decide (p.name ≠ profile.name)).find? (fun p => decide (p.name = profile.name)) = none := by
    rw [List.find?_eq_none]
    intro p hp
    simpa using (List.mem_filter.mp hp).2
  rw [Vault.imported, List.find?_append, hfront]
  simp

theorem imported_unique (hunique : vault.Unique) (profile : TunnelProfile) :
    ((vault.imported fs profile).map TunnelProfile.name).Nodup := by
  have hfront : ((((vault.loaded fs).toOption.getD []).filter fun p =>
      decide (p.name ≠ profile.name)).map TunnelProfile.name).Nodup := by
    refine List.Nodup.sublist (List.Sublist.map _ (List.filter_sublist)) ?_
    cases hload : vault.loaded fs with
    | error e => exact List.nodup_nil
    | ok index => exact loaded_unique hunique hload
  rw [Vault.imported, List.map_append, List.nodup_append]
  refine ⟨hfront, by simp, ?_⟩
  intro n hn n' hn' hsame
  obtain ⟨p, hp, rfl⟩ := List.mem_map.mp hn
  simp only [List.map_cons, List.map_nil, List.mem_singleton] at hn'
  have hne := (List.mem_filter.mp hp).2
  simp [hsame, hn'] at hne

variable [DecidableEq F]

def Vault.written (vault : Vault F) (file : F) (contents : Option FileContents) : Vault F :=
  { vault with files := Function.update vault.files file contents }

theorem loaded_written (file : F) (contents : Option FileContents) :
    (vault.written file contents).loaded fs = vault.loaded fs := by
  rw [loaded_eq, loaded_eq]
  rfl

/-- An import that passed the validation: what it does to the file and to the index. -/
theorem exec_importProfile (fileOf : String → F) (vault : Vault F)
    {describe : ProfileImportParams → Except RouteGuardError TunnelTransportConfig}
    {params : ProfileImportParams} {transport : TunnelTransportConfig}
    (hdescribe : describe params = .ok transport) (hcreate : fs.createDir = none) :
    let name := params.nameOr fs.freshId
    let file := fileOf (profileConfPath name)
    let profile : TunnelProfile :=
      ⟨name, params.backend.getD .auto, profileConfPath name, some transport⟩
    let fate := fs.indexFate (fs.writeConf = .done && (vault.loaded fs).isOk)
    ∃ result, exec (importProfile fileOf fs describe params) vault =
        (result, (vault.written file
            (fs.writeConf.leaves (vault.files file) params.confText)).indexed
          (vault.imported fs profile) fate) ∧
      (fate = .replaced → result = .ok profile) ∧ (fate ≠ .replaced → ∃ e, result = .error e) := by
  intro name file profile fate
  have hstart : exec (importProfile fileOf fs describe params) vault =
      exec (do
        fsCall fs.writeConf.failure
        let index ← loadIndex fs
        saveIndex fs (index.filter (fun p => decide (p.name ≠ name)) ++ [profile])
        pure profile)
        (vault.written file (fs.writeConf.leaves (vault.files file) params.confText)) := by
    simp only [importProfile, writeConf, exec_bind, exec_fromResult, hdescribe, exec_fsCall,
      hcreate, Option.elim_none, exec_modify]
    rfl
  rw [hstart]
  generalize hwritten : vault.written file _ = written
  have hloaded : written.loaded fs = vault.loaded fs := by rw [← hwritten, loaded_written]
  have hstopped : ∀ e, fs.writeConf.failure = some e → fate = .left := by
    intro e hfailure
    have hdone : fs.writeConf ≠ .done := by
      intro hcase
      rw [hcase] at hfailure
      cases hfailure
    simp [fate, FsAnswers.indexFate, hdone]
  rw [exec_bind, exec_fsCall]
  cases hfailure : fs.writeConf.failure with
  | some e =>
      rw [hstopped e hfailure]
      exact ⟨.error (.io e), rfl, nofun, fun _ => ⟨.io e, rfl⟩⟩
  | none =>
      have hdone : fs.writeConf = .done := by
        cases hwrite : fs.writeConf with
        | done => rfl
        | refused e => rw [hwrite] at hfailure; cases hfailure
        | cut bytes e => rw [hwrite] at hfailure; cases hfailure
      simp only [Option.elim_none, exec_bind, exec_loadIndex, hloaded, fate, hdone, Vault.imported]
      cases hload : vault.loaded fs with
      | error e => exact ⟨.error e, rfl, nofun, fun _ => ⟨e, rfl⟩⟩
      | ok index =>
          obtain ⟨result, hsave, hok, herror⟩ := exec_saveIndex fs written
            (index.filter (fun p => decide (p.name ≠ name)) ++ [profile])
          dsimp only
          rw [hsave]
          by_cases hfate : fs.indexFate true = .replaced
          · rw [hok hfate]
            exact ⟨.ok profile, rfl, fun _ => rfl, fun hother => absurd hfate hother⟩
          · obtain ⟨e, he⟩ := herror hfate
            rw [he]
            exact ⟨.error e, rfl, fun hother => absurd hother hfate, fun _ => ⟨e, rfl⟩⟩

theorem exec_importProfile_early (fileOf : String → F) (vault : Vault F)
    {describe : ProfileImportParams → Except RouteGuardError TunnelTransportConfig}
    {params : ProfileImportParams} (hearly : ¬ ((describe params).isOk ∧ fs.createDir = none)) :
    ∃ e, exec (importProfile fileOf fs describe params) vault = (.error e, vault) := by
  simp only [importProfile, exec_bind, exec_fromResult, exec_fsCall]
  cases hdescribe : describe params with
  | error e => exact ⟨e, rfl⟩
  | ok transport =>
      cases hcreate : fs.createDir with
      | some e => exact ⟨.io e, rfl⟩
      | none => exact absurd ⟨by rw [hdescribe]; rfl, hcreate⟩ hearly

theorem exec_deleteProfile_absent {name : String} {index : List TunnelProfile}
    (hload : vault.loaded fs = .ok index)
    (hfind : index.find? (fun p => decide (p.name = name)) = none) :
    exec (deleteProfile fileOf fs name) vault = (.ok (), vault) := by
  simp only [deleteProfile, exec_bind, exec_loadIndex, hload, hfind]
  rfl

theorem exec_deleteProfile (fileOf : String → F) {name : String} {index : List TunnelProfile}
    {profile : TunnelProfile}
    (hload : vault.loaded fs = .ok index)
    (hfind : index.find? (fun p => decide (p.name = name)) = some profile) :
    let file := fileOf profile.configPath
    ∃ result, exec (deleteProfile fileOf fs name) vault =
        (result, (vault.written file (fs.removed (vault.files file))).indexed
          (index.eraseP fun p => decide (p.name = name)) (fs.indexFate true)) ∧
      (fs.indexFate true = .replaced → result = .ok ()) ∧
      (fs.indexFate true ≠ .replaced → ∃ e, result = .error e) := by
  intro file
  have hremoved : (if fs.removeConf.isNone then
      { vault with files := Function.update vault.files file none } else vault) =
      vault.written file (fs.removed (vault.files file)) := by
    cases hremove : fs.removeConf with
    | none => simp [FsAnswers.removed, hremove, Vault.written]
    | some e =>
        simp [FsAnswers.removed, hremove, Vault.written]
  simp only [deleteProfile, exec_bind, exec_loadIndex, hload, hfind, exec_modify]
  rw [hremoved]
  exact exec_saveIndex _ _ _

/-! ## Which names keep their text -/

theorem textOf_written (file : F) (contents : Option FileContents) (p : TunnelProfile) :
    (vault.written file contents).textOf fileOf p =
      if fileOf p.configPath = file then contents.join else vault.textOf fileOf p := by
  by_cases hfile : fileOf p.configPath = file
  · rw [if_pos hfile]
    simp only [Vault.textOf, Vault.written, hfile, Function.update_self]
  · simp only [if_neg hfile, Vault.textOf, Vault.written, Function.update_of_ne hfile]

/-- A profile that stays listed keeps its text where the new contents of the file spare it. -/
theorem spares_iff (file : F) (contents : Option FileContents) (p : TunnelProfile) :
    (vault.written file contents).textOf fileOf p = vault.textOf fileOf p ↔
      vault.Spares fileOf file contents.join p := by
  rw [textOf_written, Vault.Spares]
  by_cases hfile : fileOf p.configPath = file
  · rw [if_pos hfile]
    exact ⟨fun hsame _ => hsame.symm, fun hspares => (hspares hfile).symm⟩
  · rw [if_neg hfile]
    exact ⟨fun _ hother => absurd hother hfile, fun _ => rfl⟩

/-- The names asked about keep their text, found as before or not found at all, exactly where each
listed profile of these names does. -/
theorem listed_kept_iff (fileOf : String → F) (hunique : vault.Unique) (file : F)
    (contents : Option FileContents) (found : Bool) (asked : String → Prop) :
    (∀ p ∈ vault.listed, asked p.name →
        if found then vault.Spares fileOf file contents.join p
        else vault.textOf fileOf p = none) ↔
      ∀ n, asked n → (if found then vault.lookup n else none).bind
          ((vault.written file contents).textOf fileOf) =
        (vault.lookup n).bind (vault.textOf fileOf) := by
  constructor
  · intro hspares n hn
    cases hfind : vault.lookup n with
    | none => simp
    | some p =>
        obtain ⟨hp, rfl⟩ := (lookup_iff hunique).mp hfind
        have hp := hspares p hp hn
        cases found with
        | true => exact (spares_iff file contents p).mpr hp
        | false => exact hp.symm
  · intro hkept p hp hn
    have htext := hkept p.name hn
    rw [(lookup_iff hunique).mpr ⟨hp, rfl⟩, Option.bind_some] at htext
    cases found with
    | true => exact (spares_iff file contents p).mp htext
    | false => exact htext.symm

/-- Every name but the one of a completed operation keeps its text exactly where the operation is
harmless. -/
theorem harmless_iff (hunique : vault.Unique) {name : String} {file : F}
    {contents : Option FileContents} {seen : Bool} {fate : IndexFate} (index : List TunnelProfile)
    (hindex : fate = .replaced → ∀ n, n ≠ name →
      index.find? (fun p => decide (p.name = n)) = if seen then vault.lookup n else none) :
    vault.Harmless fileOf name file contents.join seen fate ↔
      ∀ n, (fate = .replaced → n ≠ name) →
        fullExport fileOf ((vault.written file contents).indexed index fate) n =
          fullExport fileOf vault n := by
  simp only [fullExport_eq]
  cases fate with
  | left =>
      have hiff := listed_kept_iff fileOf hunique file contents true fun _ => True
      simp only [true_imp_iff, if_true] at hiff
      simp only [Vault.Harmless, hiff, reduceCtorEq, false_imp_iff, true_imp_iff]
      rfl
  | lost =>
      have hiff := listed_kept_iff fileOf hunique file contents false fun _ => True
      simp only [true_imp_iff, Bool.false_eq_true, if_false] at hiff
      simp only [Vault.Harmless, hiff, reduceCtorEq, false_imp_iff, true_imp_iff]
      rfl
  | replaced =>
      simp only [Vault.Harmless, true_imp_iff]
      rw [listed_kept_iff fileOf hunique file contents seen fun n => n ≠ name]
      refine forall₂_congr fun n hn => ?_
      rw [← hindex rfl n hn]
      rfl

theorem fullExport_imported (profile : TunnelProfile) (text : String) :
    fullExport fileOf ((vault.written (fileOf profile.configPath) (some (some text))).indexed
      (vault.imported fs profile) .replaced) profile.name = some text := by
  have hlookup : ((vault.written (fileOf profile.configPath) (some (some text))).indexed
      (vault.imported fs profile) .replaced).lookup profile.name = some profile :=
    find?_imported_self profile
  rw [fullExport_eq, hlookup, Option.bind_some]
  exact (textOf_written (fileOf profile.configPath) (some (some text)) profile).trans (if_pos rfl)

end Effects

/-! ## Runs -/

namespace VaultRun
variable {F : Type} {fileOf : String → F}
  {describe : ProfileImportParams → Except RouteGuardError TunnelTransportConfig} {w : VaultRun F}

/-- The map of the next state, where one name has been given a new text. -/
theorem maps_update {vault : Vault F} {name : String} {text : Option String}
    (hmaps : w.Maps fileOf) (hname : fullExport fileOf vault name = text) :
    Maps fileOf ⟨vault, Function.update w.stored name text⟩ ↔
      ∀ n, n ≠ name → fullExport fileOf vault n = fullExport fileOf w.vault n := by
  constructor
  · intro hnext n hn
    rw [hnext n, hmaps n]
    exact Function.update_of_ne hn text w.stored
  · intro hkept n
    by_cases hn : n = name
    · subst hn
      exact hname.trans (Function.update_self n text w.stored).symm
    · rw [hkept n hn, hmaps n]
      exact (Function.update_of_ne hn text w.stored).symm

theorem maps_keep {vault : Vault F} (hmaps : w.Maps fileOf) :
    Maps fileOf { w with vault := vault } ↔
      ∀ n, fullExport fileOf vault n = fullExport fileOf w.vault n :=
  forall_congr' fun n => by rw [hmaps n]

variable [DecidableEq F]

theorem import_maps_iff (hunique : w.vault.Unique) (hmaps : w.Maps fileOf)
    (params : ProfileImportParams) (fs : FsAnswers) :
    (w.step fileOf describe ⟨.importProfile params, fs⟩).Maps fileOf ↔
      w.Harmless fileOf describe ⟨.importProfile params, fs⟩ := by
  by_cases hearly : (describe params).isOk ∧ fs.createDir = none
  · obtain ⟨hok, hcreate⟩ := hearly
    have hharmless : w.Harmless fileOf describe ⟨.importProfile params, fs⟩ ↔
        w.vault.importHarmless fileOf fs params := by
      simp only [Harmless, hok, hcreate, forall_const]
    rw [hharmless]
    cases hdescribe : describe params with
    | error e =>
        rw [hdescribe] at hok
        cases hok
    | ok transport =>
        obtain ⟨result, hexec, hdone, hfailed⟩ :=
          exec_importProfile fileOf w.vault hdescribe hcreate
        generalize hprofile : (⟨params.nameOr fs.freshId, params.backend.getD .auto,
          profileConfPath (params.nameOr fs.freshId), some transport⟩ : TunnelProfile) = profile
          at hexec hdone
        have hname : params.nameOr fs.freshId = profile.name := by rw [← hprofile]
        have hpath : profileConfPath (params.nameOr fs.freshId) = profile.configPath := by
          rw [← hprofile]
        have hreached := import_reached w.vault fs
        simp only [Vault.importHarmless]
        generalize fs.indexFate (decide (fs.writeConf = .done) && (w.vault.loaded fs).isOk) = fate
          at hexec hdone hfailed hreached ⊢
        rw [hname] at hpath ⊢
        rw [hname, hpath] at hexec
        rw [hpath, harmless_iff hunique (w.vault.imported fs profile) fun hreplaced n hn => by
          obtain ⟨_, index, hload⟩ := hreached hreplaced
          exact find?_imported hload hn]
        by_cases hreplaced : fate = .replaced
        · simp only [step, hexec, hdone hreplaced]
          rw [maps_update hmaps ?_]
          · simp only [hreplaced, forall_const]
          · rw [hreplaced, (hreached hreplaced).1]
            exact fullExport_imported profile params.confText
        · obtain ⟨e, he⟩ := hfailed hreplaced
          simp only [step, hexec, he]
          rw [maps_keep hmaps]
          simp only [hreplaced, false_imp_iff, forall_const]
  · obtain ⟨e, hexec⟩ := exec_importProfile_early fileOf w.vault hearly
    have hharmless : w.Harmless fileOf describe ⟨.importProfile params, fs⟩ :=
      fun hok hcreate => absurd ⟨hok, hcreate⟩ hearly
    simp only [step, hexec, hharmless, iff_true]
    exact hmaps

theorem delete_maps_iff (hunique : w.vault.Unique) (hmaps : w.Maps fileOf) (name : String)
    (fs : FsAnswers) :
    (w.step fileOf describe ⟨.deleteProfile name, fs⟩).Maps fileOf ↔
      w.Harmless fileOf describe ⟨.deleteProfile name, fs⟩ := by
  simp only [Harmless, Vault.deleteHarmless]
  cases hload : w.vault.loaded fs with
  | error e =>
      have hexec : exec (deleteProfile fileOf fs name) w.vault = (.error e, w.vault) := by
        simp only [deleteProfile, exec_bind, exec_loadIndex, hload]
      simp only [step, hexec, iff_true]
      exact hmaps
  | ok index =>
      dsimp only
      cases hfind : index.find? fun p => decide (p.name = name) with
      | none =>
          simp only [step, exec_deleteProfile_absent hload hfind]
          constructor
          · intro hnext p hp hname
            have hnone := hnext name
            rw [fullExport_eq, (lookup_iff hunique).mpr ⟨hp, hname⟩] at hnone
            exact hnone.trans (Function.update_self name none w.stored)
          · intro hnone
            refine (maps_update hmaps ?_).mpr fun n _ => rfl
            rw [fullExport_eq]
            cases hlookup : w.vault.lookup name with
            | none => rfl
            | some p =>
                obtain ⟨hp, hname⟩ := (lookup_iff hunique).mp hlookup
                exact hnone p hp hname
      | some profile =>
          obtain ⟨result, hexec, hdone, hfailed⟩ := exec_deleteProfile fileOf hload hfind
          dsimp only
          rw [harmless_iff hunique (index.eraseP fun p => decide (p.name = name))
            fun _ n hn => by
              rw [find?_erased (loaded_unique hunique hload) hn, find?_loaded hload]]
          by_cases hreplaced : fs.indexFate true = .replaced
          · simp only [step, hexec, hdone hreplaced]
            rw [maps_update hmaps ?_]
            · simp only [hreplaced, forall_const]
            · rw [hreplaced]
              exact fullExport_erased (loaded_unique hunique hload) name
          · obtain ⟨e, he⟩ := hfailed hreplaced
            simp only [step, hexec, he]
            rw [maps_keep hmaps]
            simp only [hreplaced, false_imp_iff, forall_const]

theorem step_unique (hunique : w.vault.Unique) (call : VaultCall) :
    (w.step fileOf describe call).vault.Unique := by
  obtain ⟨op, fs⟩ := call
  cases op with
  | getProfile name =>
      simp only [step, exec_getProfile]
      exact hunique
  | exportProfile params =>
      simp only [step, exportProfile_stays]
      exact hunique
  | importProfile params =>
      by_cases hearly : (describe params).isOk ∧ fs.createDir = none
      · cases hdescribe : describe params with
        | error e =>
            rw [hdescribe] at hearly
            cases hearly.1
        | ok transport =>
            obtain ⟨result, hexec, _⟩ := exec_importProfile fileOf w.vault hdescribe hearly.2
            have hnext : ∀ file contents fate profile, ((w.vault.written file contents).indexed
                (w.vault.imported fs profile) fate).Unique := by
              intro file contents fate profile
              have hwritten : (w.vault.written file contents).Unique := hunique
              exact hwritten.indexed (imported_unique hunique profile)
            simp only [step, hexec]
            cases result with
            | ok profile => exact hnext _ _ _ _
            | error e => exact hnext _ _ _ _
      · obtain ⟨e, hexec⟩ := exec_importProfile_early fileOf w.vault hearly
        simp only [step, hexec]
        exact hunique
  | deleteProfile name =>
      cases hload : w.vault.loaded fs with
      | error e =>
          simp only [step, deleteProfile, exec_bind, exec_loadIndex, hload]
          exact hunique
      | ok index =>
          cases hfind : index.find? fun p => decide (p.name = name) with
          | none =>
              simp only [step, exec_deleteProfile_absent hload hfind]
              exact hunique
          | some profile =>
              obtain ⟨result, hexec, _⟩ := exec_deleteProfile fileOf hload hfind
              have hnext : ∀ file contents fate, ((w.vault.written file contents).indexed
                  (index.eraseP fun p => decide (p.name = name)) fate).Unique := by
                intro file contents fate
                have hwritten : (w.vault.written file contents).Unique := hunique
                refine hwritten.indexed ?_
                rw [eraseP_eq_filter (loaded_unique hunique hload)]
                exact (loaded_unique hunique hload).sublist (List.filter_sublist.map _)
              simp only [step, hexec]
              cases result with
              | ok _ => exact hnext _ _ _
              | error e => exact hnext _ _ _

theorem step_maps_iff (hunique : w.vault.Unique) (hmaps : w.Maps fileOf) (call : VaultCall) :
    (w.step fileOf describe call).Maps fileOf ↔ w.Harmless fileOf describe call := by
  obtain ⟨op, fs⟩ := call
  cases op with
  | importProfile params => exact import_maps_iff hunique hmaps params fs
  | deleteProfile name => exact delete_maps_iff hunique hmaps name fs
  | getProfile name =>
      simp only [step, exec_getProfile]
      exact iff_of_true hmaps trivial
  | exportProfile params =>
      simp only [step, exportProfile_stays]
      exact iff_of_true hmaps trivial

variable (fileOf describe)

/-- From the empty vault on, the vault is the map of what was imported and not deleted exactly as
long as every call is harmless. -/
theorem run_maps_iff (calls : List VaultCall) :
    (∀ first, first <+: calls → (run (step fileOf describe) {} first).Maps fileOf) ↔
      Guarded (step fileOf describe) (Harmless fileOf describe) {} calls := by
  have hkeep : ∀ (w : VaultRun F) (call : VaultCall), w.vault.Unique →
      (w.step fileOf describe call).vault.Unique := fun w call hunique => step_unique hunique call
  have hstep : ∀ (w : VaultRun F) (call : VaultCall), w.vault.Unique → w.Maps fileOf →
      ((w.step fileOf describe call).Maps fileOf ↔ w.Harmless fileOf describe call) :=
    fun w call hunique hmaps => step_maps_iff hunique hmaps call
  refine holds_throughout_iff _ _ hkeep hstep calls {} ?_ ?_
  · exact List.nodup_nil
  · intro name
    rw [fullExport_eq]
    rfl

end VaultRun

/-! ## Two names of one file -/

/-- The file of a path where letter case and `.` components do not count. -/
def fileComponents (path : String) : List (List Char) :=
  ((toAsciiLowercase path).toList.splitOnP fun c => c = '\\' || c = '/').filter fun part =>
    decide (part ≠ ['.'])

example : fileComponents (profileConfPath "./Home") = fileComponents (profileConfPath "home") := by
  decide

/-- The second import returns `Ok` and takes the text of the first. -/
theorem VaultRun.otherCase_overwritten :
    ¬ ∀ first, first <+: [⟨.importProfile ⟨"first", "home", none, none⟩, {}⟩,
        ⟨.importProfile ⟨"second", "Home", none, none⟩, {}⟩] →
      (run (step fileComponents fun _ => .ok {}) {} first).Maps fileComponents := by
  intro hmaps
  have htext := hmaps _ List.prefix_rfl "home"
  revert htext
  decide +kernel

end RouteGuard
