import Mathlib.Data.List.Basic

/-! # Paths of Windows

How `Path::join` puts a text behind a directory, and which file the system finds
under a path.  Names are resolved one after the other, without a look at the
file system; what a path means that begins neither with a drive nor with the
directory is left to the system. -/
set_option autoImplicit false
namespace WindowsPath

/-! ## Beginnings -/

def isSep (c : Char) : Bool := c = '\\' || c = '/'

def isDriveLetter (c : Char) : Bool := c.isAlpha

def nextComponent (path : List Char) : List Char × List Char :=
  (path.takeWhile fun c => !isSep c, (path.dropWhile fun c => !isSep c).tail)

/-- A server and a share, neither of them empty. -/
def namesShare (path : List Char) : Bool :=
  let (server, rest) := nextComponent path
  !server.isEmpty && !(nextComponent rest).1.isEmpty

def namesDevice : List Char → Bool
  | '.' :: next :: _ => isSep next
  | _ => false

/-- A prefix of `parse_prefix` that begins with two separators: `\\?\`, `\\.\` or a share. -/
def isForeign : List Char → Bool
  | first :: second :: rest =>
      isSep first && isSep second &&
        (['\\', '\\', '?', '\\'].isPrefixOf (first :: second :: rest) || namesDevice rest ||
          namesShare rest)
  | _ => false

inductive Start where
  | relative
  | rooted
  | drive (letter : Char)
  | foreign
deriving DecidableEq, Repr

def rootedOr (path : List Char) : Start :=
  match path with
  | first :: _ => if isSep first then .rooted else .relative
  | [] => .relative

def start (path : List Char) : Start :=
  if isForeign path then .foreign
  else
    match path with
    | letter :: ':' :: _ => if isDriveLetter letter then .drive letter.toUpper else rootedOr path
    | _ => rootedOr path

def segments (path : List Char) : List (List Char) := path.splitOnP isSep

/-! ## Joining -/

def drivePrefix (path : List Char) : List Char :=
  match start path with
  | .drive _ => path.take 2
  | _ => []

def needsSep (base : List Char) : Bool :=
  (base.getLast?.any fun c => !isSep c) && decide (drivePrefix base ≠ base)

/-- `Path::join`, where the base does not begin with two separators. -/
def join (base path : List Char) : List Char :=
  match start path with
  | .foreign => path
  | .drive _ => path
  | .rooted => drivePrefix base ++ path
  | .relative => if needsSep base then base ++ '\\' :: path else base ++ path

/-! ## Resolution -/

inductive Root where
  | drive (letter : Char)
  | device
  | other (name : List Char)
deriving DecidableEq, Repr

structure Location where
  root : Root
  names : List (List Char)
deriving DecidableEq, Repr

/-- What the system knows beyond the text of a path. -/
structure System where
  /-- the current directory of each drive -/
  currentDir : Char → List (List Char)
  /-- two names with the same canonical one are the same to the file system -/
  canonical : List Char → List Char
  /-- the canonical names, such as that of `NUL.txt`, that stand for a device in every directory -/
  isDevice : List Char → Bool
  /-- the meaning of the other paths -/
  foreign : List Char → Location

namespace System
variable (sys : System)

def enter (at_ : List (List Char)) (segment : List Char) : List (List Char) :=
  if segment = [] ∨ segment = ['.'] then at_
  else if segment = ['.', '.'] then at_.dropLast
  else at_ ++ [sys.canonical segment]

def walk (at_ : List (List Char)) (path : List (List Char)) : List (List Char) :=
  path.foldl sys.enter at_

def place (letter : Char) (names : List (List Char)) : Location :=
  if names.getLast?.any sys.isDevice then ⟨.device, []⟩ else ⟨.drive letter, names⟩

def driveDir (letter : Char) (rest : List Char) : List (List Char) :=
  if rest.head?.any isSep then [] else sys.currentDir letter

def locate (path : List Char) : Location :=
  match start path with
  | .drive letter =>
      let rest := path.drop 2
      sys.place letter (sys.walk (sys.driveDir letter rest) (segments rest))
  | _ => sys.foreign path

end System

def Location.DirectlyIn (dir file : Location) : Prop :=
  file.root = dir.root ∧ ∃ name, file.names = dir.names ++ [name]

/-! ## Directories -/

def Clean (segment : List Char) : Prop :=
  segment ≠ [] ∧ segment ≠ ['.'] ∧ segment ≠ ['.', '.'] ∧ ∀ c ∈ segment, isSep c = false

theorem noSep_iff {text : List Char} :
    (text.all fun c => !isSep c) = true ↔ ∀ c ∈ text, isSep c = false := by
  simp only [List.all_eq_true, Bool.not_eq_true']

instance (segment : List Char) : Decidable (Clean segment) :=
  decidable_of_iff (segment ≠ [] ∧ segment ≠ ['.'] ∧ segment ≠ ['.', '.'] ∧
    (segment.all fun c => !isSep c) = true) <| by
      rw [Clean, noSep_iff]

structure Directory where
  letter : Char
  names : List (List Char)
  isLetter : isDriveLetter letter = true
  upper : letter.toUpper = letter
  clean : ∀ name ∈ names, Clean name
  nonempty : names ≠ []

namespace Directory
variable (dir : Directory)

def tail (names : List (List Char)) : List Char := names.flatMap fun name => '\\' :: name

def text : List Char := dir.letter :: ':' :: tail dir.names

def canonical (sys : System) : List (List Char) := dir.names.map sys.canonical

def location (sys : System) : Location := ⟨.drive dir.letter, dir.canonical sys⟩

end Directory

section Segments
variable {sys : System}

theorem segments_tail {names : List (List Char)} (hclean : ∀ name ∈ names, Clean name) :
    segments (Directory.tail names) = [] :: names := by
  have hsep : isSep '\\' = true := rfl
  induction names with
  | nil => rfl
  | cons name rest ih =>
      have hrest := ih fun other hmem => hclean other (List.mem_cons_of_mem _ hmem)
      have hname := (hclean name List.mem_cons_self).2.2.2
      have htail : Directory.tail (name :: rest) = '\\' :: (name ++ Directory.tail rest) := rfl
      rw [htail, segments, List.splitOnP_cons_eq_if_modifyHead, if_pos hsep]
      congr 1
      cases rest with
      | nil =>
          have hnil : name ++ Directory.tail [] = name := List.append_nil name
          rw [hnil, List.splitOnP_eq_singleton hname]
      | cons next others =>
          have hnext : Directory.tail (next :: others) =
              '\\' :: (next ++ Directory.tail others) := rfl
          rw [segments, hnext, List.splitOnP_cons_eq_if_modifyHead, if_pos hsep,
            List.cons.injEq] at hrest
          rw [hnext, List.splitOnP_append_cons_of_forall_mem hname _ hsep, hrest.2]

theorem walk_append (at_ : List (List Char)) (first second : List (List Char)) :
    sys.walk at_ (first ++ second) = sys.walk (sys.walk at_ first) second :=
  List.foldl_append

theorem enter_clean {name : List Char} (hclean : Clean name) (at_ : List (List Char)) :
    sys.enter at_ name = at_ ++ [sys.canonical name] := by
  rw [System.enter, if_neg, if_neg hclean.2.2.1]
  rintro (hnil | hdot)
  · exact hclean.1 hnil
  · exact hclean.2.1 hdot

theorem walk_clean {names : List (List Char)} (hclean : ∀ name ∈ names, Clean name)
    (at_ : List (List Char)) : sys.walk at_ names = at_ ++ names.map sys.canonical := by
  induction names generalizing at_ with
  | nil => exact (List.append_nil at_).symm
  | cons name rest ih =>
      have hrest := ih (fun other hmem => hclean other (List.mem_cons_of_mem _ hmem))
        (at_ ++ [sys.canonical name])
      rw [System.walk, List.foldl_cons, enter_clean (hclean name List.mem_cons_self)]
      rw [System.walk] at hrest
      rw [hrest, List.map_cons, List.append_assoc, List.singleton_append]

theorem walk_tail (dir : Directory) (path : List Char) :
    sys.walk [] (segments (Directory.tail dir.names ++ '\\' :: path)) =
      sys.walk (dir.canonical sys) (segments path) := by
  have hsplit : segments (Directory.tail dir.names ++ '\\' :: path) =
      segments (Directory.tail dir.names) ++ segments path :=
    List.splitOnP_append_cons _ _ rfl
  rw [hsplit, segments_tail dir.clean, walk_append]
  have hroot : sys.walk [] ([] :: dir.names) = sys.walk [] dir.names := rfl
  rw [hroot, walk_clean dir.clean, List.nil_append]
  rfl

end Segments

/-! ## Files of a joined path -/

/-- Where the resolution of a joined path starts, and with which text. -/
structure Origin where
  letter : Char
  names : List (List Char)
  rest : List Char

def System.origin (sys : System) (dir : Directory) (path : List Char) : Option Origin :=
  match start path with
  | .foreign => none
  | .drive letter => some ⟨letter, sys.driveDir letter (path.drop 2), path.drop 2⟩
  | .rooted => some ⟨dir.letter, [], path⟩
  | .relative => some ⟨dir.letter, dir.canonical sys, path⟩

section Join
variable {sys : System} {dir : Directory} {path : List Char}

theorem letter_not_sep {c : Char} (h : isDriveLetter c = true) : isSep c = false := by
  rw [Bool.eq_false_iff]
  intro hsep
  simp only [isSep, Bool.or_eq_true, decide_eq_true_eq] at hsep
  rcases hsep with rfl | rfl
  · cases h
  · cases h

theorem isForeign_of_plain {first : Char} (h : isSep first = false) (rest : List Char) :
    isForeign (first :: rest) = false := by
  cases rest with
  | nil => rfl
  | cons second rest => rw [isForeign, h, Bool.false_and, Bool.false_and]

theorem start_letter {letter : Char} (h : isDriveLetter letter = true) (rest : List Char) :
    start (letter :: ':' :: rest) = .drive letter.toUpper := by
  rw [start, isForeign_of_plain (letter_not_sep h), if_neg Bool.false_ne_true, if_pos h]

theorem start_drive (dir : Directory) (rest : List Char) :
    start (dir.letter :: ':' :: rest) = .drive dir.letter := by
  rw [start_letter dir.isLetter, dir.upper]

theorem rootedOr_ne {s : Start} (hrooted : Start.rooted ≠ s) (hrelative : Start.relative ≠ s) :
    rootedOr path ≠ s := by
  unfold rootedOr
  split
  · split
    · exact hrooted
    · exact hrelative
  · exact hrelative

theorem letter_of_start {letter : Char} (h : start path = .drive letter) :
    ∃ first rest, path = first :: ':' :: rest ∧ isDriveLetter first = true := by
  have hor : rootedOr path ≠ .drive letter := rootedOr_ne nofun nofun
  unfold start at h
  split at h
  · cases h
  · split at h
    · rename_i first rest _
      split at h
      · rename_i hletter
        exact ⟨first, rest, rfl, hletter⟩
      · exact absurd h hor
    · exact absurd h hor

theorem foreign_of_start (h : start path = .foreign) : isForeign path = true := by
  have hor : rootedOr path ≠ .foreign := rootedOr_ne nofun nofun
  unfold start at h
  split at h
  · assumption
  · split at h
    · split at h
      · cases h
      · exact absurd h hor
    · exact absurd h hor

theorem start_rooted (h : start path = .rooted) :
    ∃ first rest, path = first :: rest ∧ isSep first = true := by
  have hor : rootedOr path = .rooted := by
    unfold start at h
    split at h
    · cases h
    · split at h
      · split at h
        · cases h
        · exact h
      · exact h
  cases path with
  | nil => cases hor
  | cons first rest =>
      refine ⟨first, rest, rfl, ?_⟩
      by_contra hsep
      rw [rootedOr, if_neg hsep] at hor
      cases hor

theorem drivePrefix_text (dir : Directory) : drivePrefix dir.text = [dir.letter, ':'] := by
  rw [drivePrefix, Directory.text, start_drive]
  rfl

theorem needsSep_text (dir : Directory) : needsSep dir.text = true := by
  obtain ⟨front, name, hnames⟩ := (List.eq_nil_or_concat' dir.names).resolve_left dir.nonempty
  have hclean : Clean name := dir.clean name (by rw [hnames]; simp)
  obtain ⟨before, c, hname⟩ := (List.eq_nil_or_concat' name).resolve_left hclean.1
  have htext : dir.text.getLast? = some c := by
    have hconcat : dir.text =
        (dir.letter :: ':' :: (Directory.tail front ++ '\\' :: before)) ++ [c] := by
      rw [Directory.text, hnames, Directory.tail, List.flatMap_append, List.flatMap_singleton,
        hname, List.cons_append, List.cons_append, List.append_assoc, List.cons_append]
      rfl
    rw [hconcat, List.getLast?_concat]
  have hsep := hclean.2.2.2 c (by rw [hname]; simp)
  have hlong : drivePrefix dir.text ≠ dir.text := by
    rw [drivePrefix_text, Directory.text]
    intro hshort
    have hnil : Directory.tail dir.names = [] := by
      rw [List.cons.injEq, List.cons.injEq] at hshort
      exact hshort.2.2.symm
    rw [hnames, Directory.tail, List.flatMap_append, List.flatMap_singleton] at hnil
    exact absurd (List.append_eq_nil_iff.mp hnil).2 (List.cons_ne_nil _ _)
  rw [needsSep, htext, Option.any_some, hsep, decide_eq_true hlong]
  rfl

/-- What the system finds under a joined path. -/
theorem locate_join (sys : System) (dir : Directory) (path : List Char) :
    sys.locate (join dir.text path) =
      match sys.origin dir path with
      | none => sys.foreign path
      | some origin =>
          sys.place origin.letter (sys.walk origin.names (segments origin.rest)) := by
  rw [join, System.origin]
  cases hstart : start path with
  | foreign =>
      dsimp only
      rw [System.locate, hstart]
  | drive letter =>
      dsimp only
      rw [System.locate, hstart]
  | rooted =>
      obtain ⟨c, rest, rfl, hsep⟩ := start_rooted hstart
      dsimp only
      rw [drivePrefix_text, System.locate]
      have hjoined : [dir.letter, ':'] ++ c :: rest = dir.letter :: ':' :: c :: rest := rfl
      rw [hjoined, start_drive]
      dsimp only [List.drop]
      rw [System.driveDir, List.head?_cons, Option.any_some, if_pos hsep]
  | relative =>
      dsimp only
      rw [needsSep_text, if_pos rfl, System.locate, Directory.text]
      have hjoined : (dir.letter :: ':' :: Directory.tail dir.names) ++ '\\' :: path =
          dir.letter :: ':' :: (Directory.tail dir.names ++ '\\' :: path) := rfl
      rw [hjoined, start_drive]
      dsimp only [List.drop]
      obtain ⟨name, rest, hnames⟩ := List.exists_cons_of_ne_nil dir.nonempty
      have hhead : (Directory.tail dir.names ++ '\\' :: path).head? = some '\\' := by
        rw [hnames]
        rfl
      have hsep : isSep '\\' = true := rfl
      rw [System.driveDir, hhead, Option.any_some, if_pos hsep, walk_tail]

end Join

/-! ## Files in the directory -/

/-- The names before the last lead into the directory, and the last one stands for no device. -/
def System.LeadsInto (sys : System) (dir : Directory) (path : List Char) : Prop :=
  match sys.origin dir path with
  | none => (dir.location sys).DirectlyIn (sys.foreign path)
  | some origin => origin.letter = dir.letter ∧
      sys.walk origin.names (segments origin.rest).dropLast = dir.canonical sys ∧
      (segments origin.rest).getLast?.any (fun name => sys.isDevice (sys.canonical name)) = false

structure Extension where
  text : List Char
  long : 2 ≤ text.length
  plain : ∀ c ∈ text, isSep c = false

section Files
variable {sys : System} {dir : Directory}

theorem segments_append {suffix : List Char} (hplain : ∀ c ∈ suffix, isSep c = false)
    (path : List Char) :
    ∃ front last, segments (path ++ suffix) = front ++ [last ++ suffix] := by
  induction path with
  | nil => exact ⟨[], [], List.splitOnP_eq_singleton hplain⟩
  | cons c rest ih =>
      obtain ⟨front, last, hrest⟩ := ih
      rw [segments] at hrest
      rw [segments, List.cons_append, List.splitOnP_cons_eq_if_modifyHead, hrest]
      split
      · exact ⟨[] :: front, last, rfl⟩
      · cases front with
        | nil => exact ⟨[], c :: last, rfl⟩
        | cons first others => exact ⟨(c :: first) :: others, last, rfl⟩

namespace Extension
variable (ext : Extension)

def after (name : List Char) : List Char := name ++ '.' :: ext.text

theorem plain_after {name : List Char} (h : ∀ c ∈ name, isSep c = false) :
    ∀ c ∈ ext.after name, isSep c = false := by
  intro c hmem
  rcases List.mem_append.mp hmem with hname | hext
  · exact h c hname
  · rcases List.mem_cons.mp hext with rfl | htext
    · rfl
    · exact ext.plain c htext

theorem enter_after (name : List Char) (at_ : List (List Char)) :
    sys.enter at_ (ext.after name) = at_ ++ [sys.canonical (ext.after name)] := by
  have hlong : 3 ≤ (ext.after name).length := by
    have htext := ext.long
    rw [after, List.length_append, List.length_cons]
    omega
  have hne {special : List Char} (hshort : special.length < 3) : ext.after name ≠ special := by
    intro hsame
    rw [hsame] at hlong
    omega
  rw [System.enter, if_neg, if_neg (hne (by decide))]
  rintro (hnil | hdot)
  · exact hne (by decide) hnil
  · exact hne (by decide) hdot

theorem drive_after {name : List Char} {letter : Char}
    (h : start (ext.after name) = .drive letter) :
    ∃ first rest, name = first :: ':' :: rest ∧ isDriveLetter first = true := by
  obtain ⟨first, rest, hpath, hletter⟩ := letter_of_start h
  match name with
  | [] =>
      cases (List.cons.inj hpath).1
      cases hletter
  | [c] => cases (List.cons.inj (List.cons.inj hpath).2).1
  | c :: second :: others =>
      obtain ⟨rfl, htail⟩ := List.cons.inj hpath
      obtain ⟨rfl, _⟩ := List.cons.inj htail
      exact ⟨c, others, rfl, hletter⟩

/-- The text that is resolved ends with the extension too. -/
theorem origin_after {name : List Char} {origin : Origin}
    (h : sys.origin dir (ext.after name) = some origin) :
    ∃ before, origin.rest = ext.after before := by
  rw [System.origin] at h
  cases hstart : start (ext.after name) with
  | foreign =>
      rw [hstart] at h
      cases h
  | rooted =>
      rw [hstart] at h
      cases h
      exact ⟨name, rfl⟩
  | relative =>
      rw [hstart] at h
      cases h
      exact ⟨name, rfl⟩
  | drive letter =>
      rw [hstart] at h
      cases h
      obtain ⟨first, rest, rfl, _⟩ := ext.drive_after hstart
      exact ⟨rest, rfl⟩

end Extension

theorem directlyIn_place_iff (letter : Char) (at_ : List (List Char)) (name : List Char) :
    (dir.location sys).DirectlyIn (sys.place letter (at_ ++ [name])) ↔
      letter = dir.letter ∧ at_ = dir.canonical sys ∧ sys.isDevice name = false := by
  rw [System.place, List.getLast?_concat, Option.any_some]
  cases hdevice : sys.isDevice name with
  | true =>
      refine iff_of_false ?_ fun h => absurd h.2.2 Bool.false_ne_true.symm
      rintro ⟨hroot, _⟩
      cases hroot
  | false =>
      rw [if_neg Bool.false_ne_true]
      constructor
      · rintro ⟨hroot, name', hnames⟩
        refine ⟨Root.drive.inj hroot, ?_, rfl⟩
        exact (List.append_inj' hnames rfl).1
      · rintro ⟨rfl, rfl, _⟩
        exact ⟨rfl, name, rfl⟩

/-- A file with an extension stands in the directory it is joined to exactly if its path leads
there. -/
theorem locate_join_directlyIn_iff (sys : System) (dir : Directory) (ext : Extension)
    (name : List Char) :
    (dir.location sys).DirectlyIn (sys.locate (join dir.text (ext.after name))) ↔
      sys.LeadsInto dir (ext.after name) := by
  rw [locate_join, System.LeadsInto]
  cases horigin : sys.origin dir (ext.after name) with
  | none => exact Iff.rfl
  | some origin =>
      obtain ⟨before, hrest⟩ := ext.origin_after horigin
      obtain ⟨front, last, hsegments⟩ := segments_append
        (ext.plain_after fun c hmem => absurd hmem List.not_mem_nil) before
      have hlast : segments origin.rest = front ++ [ext.after last] := by
        rw [hrest]
        exact hsegments
      dsimp only
      rw [hlast, walk_append, List.dropLast_concat, List.getLast?_concat, Option.any_some]
      have hend : sys.walk (sys.walk origin.names front) [ext.after last] =
          sys.walk origin.names front ++ [sys.canonical (ext.after last)] :=
        ext.enter_after last _
      rw [hend, directlyIn_place_iff]

/-- A name without separators that does not begin with a drive leads nowhere else. -/
theorem leadsInto_of_plain {ext : Extension} {name : List Char}
    (hplain : ∀ c ∈ name, isSep c = false) (hdrive : ∀ letter, start name ≠ .drive letter)
    (hdevice : sys.isDevice (sys.canonical (ext.after name)) = false) :
    sys.LeadsInto dir (ext.after name) := by
  have hafter := ext.plain_after hplain
  have hstart : start (ext.after name) = .relative := by
    cases hcase : start (ext.after name) with
    | relative => rfl
    | foreign =>
        have hforeign := foreign_of_start hcase
        cases hpath : ext.after name with
        | nil =>
            rw [hpath] at hforeign
            cases hforeign
        | cons first rest =>
            have hfirst := hafter first (by rw [hpath]; exact List.mem_cons_self)
            rw [hpath, isForeign_of_plain hfirst] at hforeign
            cases hforeign
    | rooted =>
        obtain ⟨first, rest, hpath, hsep⟩ := start_rooted hcase
        have hfirst := hafter first (by rw [hpath]; exact List.mem_cons_self)
        cases hfirst.symm.trans hsep
    | drive letter =>
        obtain ⟨first, rest, rfl, hletter⟩ := ext.drive_after hcase
        exact absurd (start_letter hletter rest) (hdrive _)
  have hsegments : segments (ext.after name) = [ext.after name] :=
    List.splitOnP_eq_singleton hafter
  rw [System.LeadsInto, System.origin, hstart]
  dsimp only
  rw [hsegments]
  exact ⟨rfl, rfl, hdevice⟩

end Files

end WindowsPath
