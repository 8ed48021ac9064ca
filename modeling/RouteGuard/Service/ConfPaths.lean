import RouteGuard.Lib.WindowsPath
import RouteGuard.Service.AdapterEndpoint
import RouteGuard.Service.ProfileStore
import RouteGuard.Service.ProfileSummary

/-! # Where the configurations are written

An import writes to the profiles directory joined with the name, a connect to
the runtime directory joined with the name.  Neither looks at the name: which
file that is depends on how Windows resolves the path. -/
set_option autoImplicit false
namespace RouteGuard

open Fallible WindowsPath

/-! ## The paths -/

def programDir (last : String) (h : Clean last.toList) : Directory where
  letter := 'C'
  names := ["ProgramData".toList, "RouteGuard".toList, last.toList]
  isLetter := rfl
  upper := rfl
  clean := by
    intro name hmem
    simp only [List.mem_cons, List.not_mem_nil, or_false] at hmem
    rcases hmem with rfl | rfl | rfl
    · decide
    · decide
    · exact h
  nonempty := List.cons_ne_nil _ _

def profiles : Directory := programDir "profiles" (by decide)

def runtime : Directory := programDir "runtime" (by decide)

theorem profiles_text : profiles.text = profilesDir.toList := by decide

def conf : Extension where
  text := "conf".toList
  long := by decide
  plain := noSep_iff.mp (by decide)

def confName (name : String) : List Char := conf.after name.toList

def runtimeConfPath (name : String) : List Char := join runtime.text (confName name)

/-- The file of a path of the vault; what stands behind the profiles directory is joined to it. -/
def vaultFile (sys : System) (path : String) : Location :=
  let base := profilesDir.toList ++ ['\\']
  if base.isPrefixOf path.toList then sys.locate (join profiles.text (path.toList.drop base.length))
  else sys.locate path.toList

theorem vaultFile_profileConfPath (sys : System) (name : String) :
    vaultFile sys (profileConfPath name) = sys.locate (join profiles.text (confName name)) := by
  have hpath : (profileConfPath name).toList = (profilesDir.toList ++ ['\\']) ++ confName name := by
    simp only [profileConfPath, confName, Extension.after, String.toList_append, List.append_assoc]
    rfl
  have hprefix :
      (profilesDir.toList ++ ['\\']).isPrefixOf (profileConfPath name).toList = true := by
    rw [hpath, List.isPrefixOf_iff_prefix]
    exact List.prefix_append _ _
  rw [vaultFile, if_pos hprefix, hpath, List.drop_left]

/-! ## What is written -/

abbrev ConfFiles := Location → Option FileContents

def ChangesOnlyIn (dir : Location) (before after : ConfFiles) : Prop :=
  ∀ file, after file ≠ before file → dir.DirectlyIn file

/-- Bytes come to the file, all of them or the first ones. -/
def WriteAnswer.Touches : WriteAnswer → Prop
  | .refused _ => False
  | _ => True

instance (answer : WriteAnswer) : Decidable answer.Touches := by
  cases answer <;> unfold WriteAnswer.Touches <;> infer_instance

section Update
variable {dir file : Location}

theorem changesOnlyIn_refl (files : ConfFiles) : ChangesOnlyIn dir files files :=
  fun _ hchanged => absurd rfl hchanged

theorem changesOnlyIn_refused {answer : WriteAnswer} (hrefused : ¬answer.Touches) (text : String)
    (files : ConfFiles) :
    ChangesOnlyIn dir files (Function.update files file (answer.leaves (files file) text)) := by
  cases answer with
  | done => exact absurd trivial hrefused
  | cut bytes e => exact absurd trivial hrefused
  | refused e =>
      have hsame : Function.update files file (files file) = files :=
        Function.update_eq_self file files
      rw [WriteAnswer.leaves, hsame]
      exact changesOnlyIn_refl files

/-- A write changes some files only in the directory exactly if its file stands there. -/
theorem changesOnlyIn_write_iff {answer : WriteAnswer} (htouches : answer.Touches) (text : String) :
    (∀ files, ChangesOnlyIn dir files
        (Function.update files file (answer.leaves (files file) text))) ↔
      dir.DirectlyIn file := by
  constructor
  · intro hall
    refine hall (fun _ => none) file ?_
    rw [Function.update_self]
    cases answer with
    | done => exact nofun
    | refused e => exact htouches.elim
    | cut bytes e => exact nofun
  · intro hfile files other hchanged
    have hsame : other = file := by
      by_contra hother
      rw [Function.update_of_ne hother] at hchanged
      exact hchanged rfl
    rw [hsame]
    exact hfile

end Update

/-! ## Imports -/

section Import
variable (sys : System) (fs : FsAnswers)
  (describe : ProfileImportParams → Except RouteGuardError TunnelTransportConfig)
  (params : ProfileImportParams)

/-- The import comes to write the text, and bytes of it are written. -/
structure ImportWrites : Prop where
  described : (describe params).isOk
  created : fs.createDir = none
  touches : fs.writeConf.Touches

def ImportStays : Prop :=
  ∀ vault : Vault Location, ChangesOnlyIn (profiles.location sys) vault.files
    (exec (importProfile (vaultFile sys) fs describe params) vault).2.files

theorem indexed_files {F : Type} (vault : Vault F) (index : List TunnelProfile) (fate : IndexFate) :
    (vault.indexed index fate).files = vault.files := by
  cases fate <;> rfl

theorem importStays_iff : ImportStays sys fs describe params ↔
    (ImportWrites fs describe params →
      sys.LeadsInto profiles (confName (params.nameOr fs.freshId))) := by
  by_cases hstart : (describe params).isOk ∧ fs.createDir = none
  · obtain ⟨transport, htransport⟩ : ∃ transport, describe params = .ok transport := by
      cases hdescribe : describe params with
      | error e =>
          rw [hdescribe] at hstart
          cases hstart.1
      | ok transport => exact ⟨transport, rfl⟩
    have hfiles (vault : Vault Location) :
        (exec (importProfile (vaultFile sys) fs describe params) vault).2.files =
          Function.update vault.files
            (sys.locate (join profiles.text (confName (params.nameOr fs.freshId))))
            (fs.writeConf.leaves (vault.files
              (sys.locate (join profiles.text (confName (params.nameOr fs.freshId)))))
              params.confText) := by
      obtain ⟨result, hexec, _⟩ :=
        exec_importProfile (vaultFile sys) vault htransport hstart.2
      rw [hexec]
      dsimp only
      rw [indexed_files, Vault.written, vaultFile_profileConfPath]
    cases htouches : decide fs.writeConf.Touches with
    | true =>
        have hwrites : ImportWrites fs describe params :=
          ⟨hstart.1, hstart.2, of_decide_eq_true htouches⟩
        rw [forall_prop_of_true hwrites, confName, ← locate_join_directlyIn_iff, ← confName,
          ← changesOnlyIn_write_iff hwrites.touches params.confText]
        constructor
        · intro hstays files
          have hchanged := hstays { files := files }
          rw [hfiles] at hchanged
          exact hchanged
        · intro hall vault
          rw [hfiles]
          exact hall vault.files
    | false =>
        have hrefused := of_decide_eq_false htouches
        refine iff_of_true (fun vault => ?_) fun hwrites => absurd hwrites.touches hrefused
        rw [hfiles]
        exact changesOnlyIn_refused hrefused _ _
  · have hnot : ¬ImportWrites fs describe params :=
      fun hwrites => hstart ⟨hwrites.described, hwrites.created⟩
    refine iff_of_true (fun vault => ?_) fun hwrites => absurd hwrites hnot
    obtain ⟨e, hexec⟩ := exec_importProfile_early (vaultFile sys) vault hstart
    rw [hexec]
    exact changesOnlyIn_refl _

end Import

/-! ## Connects -/

structure StoreAnswers where
  createDir : Option String := none
  write : WriteAnswer := .done
deriving DecidableEq, Repr

def StoreAnswers.result (answers : StoreAnswers) : Except RouteGuardError Unit :=
  match answers.createDir, answers.write.failure with
  | none, none => .ok ()
  | none, some e => .error (.io e)
  | some e, _ => .error (.io e)

section Connect
variable (req : ConnectRequest)

def ConnectRequest.storing (answers : StoreAnswers) : ConnectRequest :=
  { req with storeConf := answers.result }

/-- The name and the text of the file that a connect comes to write. -/
def ConnectRequest.runtimeCopy (ctx : ServiceContext) : Option (String × String) :=
  match selectTunnel req ctx.config with
  | .error _ => none
  | .ok selected =>
      match readPlan req selected with
      | .error _ => none
      | .ok plan =>
          let ctx := announce plan
            (ctx.setConfig { ctx.config with tunnel := some selected.tunnelCfg })
          match (exec (transportUp req plan.choice plan.merged plan.peerEndpoint) ctx).1 with
          | .error _ => none
          | .ok session =>
              match rewriteConfEndpoint session.wireguardEndpoint (some session.effectiveMtu)
                plan.confText with
              | .error _ => none
              | .ok text => some (plan.tunnelCfg.name, text)

/-- The name of that file, by the plan and the start of the transport. -/
def ConnectRequest.runtimeName (cfg : AppConfig) : Option String :=
  match req.plan cfg with
  | .error _ => none
  | .ok plan =>
      match req.startResult plan.choice with
      | .error _ => none
      | .ok _ => some plan.tunnelCfg.name

theorem runtimeCopy_name (ctx : ServiceContext) :
    (req.runtimeCopy ctx).map Prod.fst = req.runtimeName ctx.config := by
  rw [ConnectRequest.runtimeCopy, ConnectRequest.runtimeName, ConnectRequest.plan]
  cases selectTunnel req ctx.config with
  | error e => rfl
  | ok selected =>
      dsimp only [Except.bind]
      cases readPlan req selected with
      | error e => rfl
      | ok plan =>
          dsimp only
          generalize announce plan _ = announced
          have hendpoint := (transportUp_exit req plan.choice plan.merged plan.peerEndpoint
            announced).2
          rw [ConnectRequest.localEndpoint] at hendpoint
          cases hup : (exec (transportUp req plan.choice plan.merged plan.peerEndpoint)
              announced).1 with
          | error e =>
              rw [hup] at hendpoint
              cases hstart : req.startResult plan.choice with
              | error e => rfl
              | ok relay =>
                  rw [hstart] at hendpoint
                  cases hendpoint
          | ok session =>
              rw [hup] at hendpoint
              obtain ⟨text, htext⟩ := rewriteConfEndpoint_ok session.wireguardEndpoint
                session.effectiveMtu plan.confText
              cases hstart : req.startResult plan.choice with
              | error e =>
                  rw [hstart] at hendpoint
                  cases hendpoint
              | ok relay =>
                  dsimp only
                  rw [htext]
                  rfl

/-- The adapter is brought up with the text of that file. -/
theorem adapterSetting_copied {ctx : ServiceContext} {setting : AdapterSetting}
    (h : req.adapterSetting ctx = some setting) :
    (req.runtimeCopy ctx).map Prod.snd = some setting.text := by
  rw [ConnectRequest.adapterSetting] at h
  rw [ConnectRequest.runtimeCopy]
  cases hselect : selectTunnel req ctx.config with
  | error e =>
      rw [hselect] at h
      cases h
  | ok selected =>
      rw [hselect] at h
      dsimp only at h ⊢
      cases hplan : readPlan req selected with
      | error e =>
          rw [hplan] at h
          cases h
      | ok plan =>
          rw [hplan] at h
          dsimp only at h ⊢
          generalize (exec (transportUp req plan.choice plan.merged plan.peerEndpoint)
            (announce plan _)).1 = started at h ⊢
          cases started with
          | error e => cases h
          | ok session =>
              dsimp only at h ⊢
              generalize rewriteConfEndpoint session.wireguardEndpoint
                (some session.effectiveMtu) plan.confText = rewritten at h ⊢
              cases rewritten with
              | error e => cases h
              | ok copied =>
                  dsimp only at h
                  split at h
                  · cases h
                    rfl
                  · cases h

theorem adapterSetting_stored {ctx : ServiceContext} {setting : AdapterSetting}
    (h : req.adapterSetting ctx = some setting) : req.storeConf = .ok () := by
  rw [ConnectRequest.adapterSetting] at h
  split at h
  · cases h
  · split at h
    · cases h
    · dsimp only at h
      split at h
      · cases h
      · split at h
        · cases h
        · split at h
          · assumption
          · cases h

variable (sys : System) (answers : StoreAnswers)

/-- The files after a connect; only `prepare` writes one. -/
def connectFiles (ctx : ServiceContext) (files : ConfFiles) : ConfFiles :=
  match req.runtimeCopy ctx with
  | none => files
  | some (name, text) =>
      if answers.createDir = none then
        let file := sys.locate (runtimeConfPath name)
        Function.update files file (answers.write.leaves (files file) text)
      else files

/-- The adapter is brought up with what the file holds. -/
theorem adapterSetting_written {ctx : ServiceContext} {setting : AdapterSetting}
    (h : (req.storing answers).adapterSetting ctx = some setting) (files : ConfFiles) :
    ∃ name, req.runtimeName ctx.config = some name ∧
      connectFiles req sys answers ctx files (sys.locate (runtimeConfPath name)) =
        some (some setting.text) := by
  have hstoring : (req.storing answers).runtimeCopy ctx = req.runtimeCopy ctx := rfl
  have hcopied := adapterSetting_copied (req.storing answers) h
  rw [hstoring] at hcopied
  obtain ⟨⟨name, copied⟩, hcopy, hsnd⟩ := Option.map_eq_some_iff.mp hcopied
  have hname := runtimeCopy_name req ctx
  rw [hcopy] at hname
  have hresult : answers.result = .ok () := adapterSetting_stored (req.storing answers) h
  refine ⟨name, hname.symm, ?_⟩
  rw [StoreAnswers.result] at hresult
  cases hcreate : answers.createDir with
  | some e =>
      rw [hcreate] at hresult
      cases hresult
  | none =>
      rw [hcreate] at hresult
      cases hwrite : answers.write with
      | refused e =>
          rw [hwrite] at hresult
          cases hresult
      | cut bytes e =>
          rw [hwrite] at hresult
          cases hresult
      | done =>
          rw [connectFiles, hcopy]
          dsimp only
          rw [if_pos hcreate, Function.update_self, hwrite, ← hsnd]
          rfl

/-- The connect comes to write the configuration of that name, and bytes of it are written. -/
structure ConnectWrites (cfg : AppConfig) (name : String) : Prop where
  copied : req.runtimeName cfg = some name
  created : answers.createDir = none
  touches : answers.write.Touches

def ConnectStays (ctx : ServiceContext) : Prop :=
  ∀ files, ChangesOnlyIn (runtime.location sys) files (connectFiles req sys answers ctx files)

theorem connectStays_iff (ctx : ServiceContext) : ConnectStays req sys answers ctx ↔
    ∀ name, ConnectWrites req answers ctx.config name → sys.LeadsInto runtime (confName name) := by
  have hname := runtimeCopy_name req ctx
  unfold ConnectStays connectFiles
  cases hcopy : req.runtimeCopy ctx with
  | none =>
      rw [hcopy] at hname
      refine iff_of_true (fun files => changesOnlyIn_refl files) fun name hwrites => ?_
      rw [hwrites.copied] at hname
      cases hname
  | some copy =>
      obtain ⟨name, text⟩ := copy
      rw [hcopy] at hname
      have hcopied : req.runtimeName ctx.config = some name := hname.symm
      dsimp only
      by_cases hwritten : answers.createDir = none ∧ answers.write.Touches
      · obtain ⟨hcreate, htouches⟩ := hwritten
        have hall : (∀ other, ConnectWrites req answers ctx.config other →
            sys.LeadsInto runtime (confName other)) ↔ sys.LeadsInto runtime (confName name) := by
          constructor
          · intro hleads
            exact hleads name ⟨hcopied, hcreate, htouches⟩
          · intro hleads other hwrites
            have hsame : name = other := Option.some.inj (hcopied.symm.trans hwrites.copied)
            rw [← hsame]
            exact hleads
        simp only [if_pos hcreate]
        rw [changesOnlyIn_write_iff htouches, hall]
        exact locate_join_directlyIn_iff sys runtime conf name.toList
      · refine iff_of_true (fun files => ?_) fun other hwrites =>
          absurd ⟨hwrites.created, hwrites.touches⟩ hwritten
        split
        · rename_i hcreate
          exact changesOnlyIn_refused (fun htouches => hwritten ⟨hcreate, htouches⟩) text files
        · exact changesOnlyIn_refl files

end Connect

/-! ## Names that stay -/

section Names
variable (sys : System) (fs : FsAnswers)
  (describe : ProfileImportParams → Except RouteGuardError TunnelTransportConfig)
  (params : ProfileImportParams) (req : ConnectRequest) (answers : StoreAnswers)
  (ctx : ServiceContext)

/-- A name with no separator, drive or device. -/
structure PlainName (name : String) : Prop where
  noSep : ∀ c ∈ name.toList, isSep c = false
  noDrive : ∀ letter, start name.toList ≠ .drive letter
  noDevice : sys.isDevice (sys.canonical (confName name)) = false

theorem PlainName.leadsInto {name : String} (h : PlainName sys name) (dir : Directory) :
    sys.LeadsInto dir (confName name) :=
  leadsInto_of_plain h.noSep h.noDrive h.noDevice

theorem import_plain_stays (h : PlainName sys (params.nameOr fs.freshId)) :
    ImportStays sys fs describe params :=
  (importStays_iff sys fs describe params).mpr fun _ => h.leadsInto sys profiles

theorem connect_plain_stays (h : ∀ name ∈ req.runtimeName ctx.config, PlainName sys name) :
    ConnectStays req sys answers ctx := by
  refine (connectStays_iff req sys answers ctx).mpr fun name hwrites => ?_
  exact (h name hwrites.copied).leadsInto sys runtime

/-- An import and a connect leave the files outside their directories as they are exactly if they
write nothing, or the name leads back into the directory. -/
theorem confFiles_stay_iff :
    (ImportStays sys fs describe params ↔
      (ImportWrites fs describe params →
        sys.LeadsInto profiles (confName (params.nameOr fs.freshId)))) ∧
    (ConnectStays req sys answers ctx ↔
      ∀ name, ConnectWrites req answers ctx.config name →
        sys.LeadsInto runtime (confName name)) :=
  ⟨importStays_iff sys fs describe params, connectStays_iff req sys answers ctx⟩

end Names

def asciiSystem : System where
  currentDir _ := []
  canonical name := name.map Char.toLower
  isDevice name := name.takeWhile (fun c => c ≠ '.') = "nul".toList
  foreign path := ⟨.other path, []⟩

/-- A parent component leaves the profiles directory, an absolute name the runtime directory. -/
theorem escapingNames_written :
    ¬ImportStays asciiSystem {}
      (fun params => describeImport exampleProbes params fun _ => "")
      { exampleImport none with name := some "..\\evil" } ∧
    ¬ConnectStays { exampleConnect with params := .ok { name := some "C:\\Windows\\evil" } }
      asciiSystem {} exampleService := by
  constructor
  · intro hstays
    have hdescribed : (describeImport exampleProbes
        { exampleImport none with name := some "..\\evil" } fun _ => "").isOk := by
      have hvalid : (importValidation exampleProbes
          { exampleImport none with name := some "..\\evil" }).valid = true :=
        exampleImport_accepted none
      rw [describeImport, if_pos hvalid]
      rfl
    have hleads := (importStays_iff _ _ _ _).mp hstays ⟨hdescribed, rfl, trivial⟩
    obtain ⟨_, hdir, _⟩ := hleads
    revert hdir
    decide
  · intro hstays
    have hleads := (connectStays_iff _ _ _ _).mp hstays "C:\\Windows\\evil"
      ⟨by decide +kernel, rfl, trivial⟩
    obtain ⟨_, hdir, _⟩ := hleads
    revert hdir
    decide

end RouteGuard
