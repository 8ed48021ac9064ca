import RouteGuard.Core.TransportHints
import RouteGuard.Platform.ConfSections

/-! # Keys as the rewriter finds them

The rewriter compares the start of a line with a key, the driver the text before
the sign, without the comment.  On an entry of the driver the comparison is one
with its key, and a line that the rewriter takes for a named section is a header. -/
set_option autoImplicit false
namespace RouteGuard

/-! ## Starts of a text -/

section Starts

/-- A start ends before a character that it does not hold. -/
theorem prefix_append_cons_iff {start before : List Char} {c : Char} (hc : c ∉ start)
    (after : List Char) : start <+: before ++ c :: after ↔ start <+: before := by
  constructor
  · intro h
    rcases List.prefix_or_prefix_of_prefix h (List.prefix_append before (c :: after)) with h' | h'
    · exact h'
    · obtain ⟨rest, rfl⟩ := h'
      cases rest with
      | nil => rw [List.append_nil]
      | cons d rest =>
          rw [List.prefix_append_right_inj] at h
          obtain ⟨more, hmore⟩ := h
          cases hmore
          simp at hc
  · intro h
    exact h.trans (List.prefix_append before (c :: after))

theorem toLower_of_isWhitespace {c : Char} (h : isWhitespace c = true) : c.toLower = c := by
  rcases toLower_eq_or c with hsame | ⟨hlow, hhigh, -⟩
  · exact hsame
  · simp only [isWhitespace, decide_eq_true_eq] at h
    omega

structure KeyStart (start : List Char) : Prop where
  graphic : Graphic start
  no_sign : '=' ∉ start

theorem KeyStart.not_mem {start : List Char} (h : KeyStart start) {c : Char}
    (hc : isWhitespace c = true ∨ c = '=') : c.toLower ∉ start := by
  rcases hc with hc | rfl
  · rw [toLower_of_isWhitespace hc]
    intro hmem
    rw [h.graphic c hmem] at hc
    cases hc
  · exact h.no_sign

/-- Lower case, a start ends before white space and before the sign. -/
theorem KeyStart.prefix_iff {start : List Char} (h : KeyStart start) {c : Char}
    (hc : isWhitespace c = true ∨ c = '=') (before after : List Char) :
    start <+: (before ++ c :: after).map Char.toLower ↔ start <+: before.map Char.toLower := by
  rw [List.map_append, List.map_cons, prefix_append_cons_iff (h.not_mem hc)]

/-- White space at the end does not matter. -/
theorem KeyStart.prefix_blanks {start : List Char} (h : KeyStart start) (text : List Char)
    {blanks : List Char} (hblanks : ∀ c ∈ blanks, isWhitespace c = true) :
    start <+: (text ++ blanks).map Char.toLower ↔ start <+: text.map Char.toLower := by
  cases blanks with
  | nil => rw [List.append_nil]
  | cons c rest => exact h.prefix_iff (Or.inl (hblanks c List.mem_cons_self)) text rest

theorem KeyStart.prefix_rdropWhile {start : List Char} (h : KeyStart start) (text : List Char) :
    start <+: (text.rdropWhile isWhitespace).map Char.toLower ↔
      start <+: text.map Char.toLower := by
  rw [← h.prefix_blanks (text.rdropWhile isWhitespace) fun c hc =>
    List.mem_rtakeWhile_imp hc, List.rdropWhile_append_rtakeWhile]

end Starts

/-! ## Entries -/

section Entries

theorem splitOnce_eq_some {c : Char} {s before after : String}
    (h : splitOnce c s = some (before, after)) :
    s.toList = before.toList ++ c :: after.toList := by
  rw [splitOnce, List.span_eq_takeWhile_dropWhile] at h
  cases hrest : s.toList.dropWhile fun d => d != c with
  | nil =>
      rw [hrest] at h
      cases h
  | cons d rest =>
      rw [hrest] at h
      obtain rfl : d = c := by
        have hfirst := List.head?_dropWhile_not (fun d => d != c) s.toList
        rw [hrest] at hfirst
        simpa using hfirst
      cases h
      rw [String.toList_ofList, String.toList_ofList, ← hrest, List.takeWhile_append_dropWhile]

theorem dropWhile_takeWhile {p q : Char → Bool} (h : ∀ c, q c = true → p c = true)
    (text : List Char) : (text.takeWhile p).dropWhile q = (text.dropWhile q).takeWhile p := by
  induction text with
  | nil => rfl
  | cons c rest ih =>
      cases hblank : q c with
      | true =>
          rw [List.takeWhile_cons_of_pos (h c hblank), List.dropWhile_cons_of_pos hblank,
            List.dropWhile_cons_of_pos hblank, ih]
      | false =>
          rw [List.dropWhile_cons_of_neg (by simp [hblank])]
          cases hplain : p c with
          | true =>
              rw [List.takeWhile_cons_of_pos hplain,
                List.dropWhile_cons_of_neg (by simp [hblank])]
          | false => rw [List.takeWhile_cons_of_neg (by simp [hplain])]; rfl

theorem not_comment_of_isWhitespace (c : Char) (h : isWhitespace c = true) :
    (c != '#') = true := by
  rw [bne_iff_ne]
  rintro rfl
  revert h
  decide

/-- The text of an entry: its key, and behind it white space or the sign. -/
theorem key_of_entry {line key val : String} (h : confEvent line = some (.entry key val)) :
    ∃ name c rest, key = toAsciiLowercase (String.ofList name) ∧
      (isWhitespace c = true ∨ c = '=') ∧
      line.toList.dropWhile isWhitespace = name ++ c :: rest := by
  rw [confEvent] at h
  dsimp only at h
  split_ifs at h
  · cases h
  obtain ⟨⟨before, after⟩, hsplit, hevent⟩ := Option.map_eq_some_iff.mp h
  obtain ⟨hkey, -⟩ := ConfEvent.entry.inj hevent
  have htext := splitOnce_eq_some hsplit
  have hstart : (trim (beforeComment line)).toList <+: line.toList.dropWhile isWhitespace := by
    rw [trim, beforeComment, String.toList_ofList, String.toList_ofList,
      dropWhile_takeWhile not_comment_of_isWhitespace]
    exact (List.rdropWhile_prefix _ _).trans (List.takeWhile_prefix _)
  obtain ⟨more, hmore⟩ := hstart
  have hfirst : ∀ c ∈ before.toList.head?, isWhitespace c = false := by
    intro c hc
    have hhead : (line.toList.dropWhile isWhitespace).head? = some c := by
      rw [← hmore, htext]
      obtain ⟨others, hothers⟩ := List.head?_eq_some_iff.mp hc
      rw [hothers]
      rfl
    have hnot := List.head?_dropWhile_not isWhitespace line.toList
    rw [hhead] at hnot
    simpa using hnot
  have hname : trim before = String.ofList (before.toList.rdropWhile isWhitespace) := by
    rw [trim, dropWhile_of_head hfirst]
  rw [← hkey, hname, ← hmore, htext]
  refine ⟨before.toList.rdropWhile isWhitespace, ?_⟩
  have hblanks : ∀ c ∈ before.toList.rtakeWhile isWhitespace, isWhitespace c = true :=
    fun c hc => List.mem_rtakeWhile_imp hc
  have hbefore := @List.rdropWhile_append_rtakeWhile _ isWhitespace before.toList
  cases hend : before.toList.rtakeWhile isWhitespace with
  | nil =>
      rw [hend, List.append_nil] at hbefore
      rw [hbefore]
      exact ⟨'=', after.toList ++ more, rfl, Or.inr rfl, by simp⟩
  | cons c rest =>
      rw [hend] at hblanks hbefore
      refine ⟨c, rest ++ '=' :: after.toList ++ more, rfl,
        Or.inl (hblanks c List.mem_cons_self), ?_⟩
      conv_lhs => rw [← hbefore]
      simp

theorem startsWith_entry {line key val start : String}
    (h : confEvent line = some (.entry key val)) (hstart : KeyStart start.toList) :
    startsWith (toAsciiLowercase (trim line)) start = startsWith key start := by
  obtain ⟨name, c, rest, rfl, hc, hline⟩ := key_of_entry h
  rw [Bool.eq_iff_iff, startsWith, startsWith, List.isPrefixOf_iff_prefix,
    List.isPrefixOf_iff_prefix, toAsciiLowercase, toAsciiLowercase, String.toList_ofList,
    String.toList_ofList, String.toList_ofList, trim, String.toList_ofList,
    hstart.prefix_rdropWhile, hline, hstart.prefix_iff hc]

/-- The carriage return at the end of a line is white space to the driver. -/
theorem confEvent_stripReturn (line : String) :
    confEvent (String.ofList (stripReturn line.toList)) = confEvent line := by
  have htrim : trim (beforeComment (String.ofList (stripReturn line.toList))) =
      trim (beforeComment line) := by
    rw [stripReturn]
    split
    · rename_i hlast
      obtain ⟨front, hfront⟩ := List.getLast?_eq_some_iff.mp hlast
      rw [hfront, List.dropLast_concat, beforeComment, beforeComment, String.toList_ofList, hfront,
        List.takeWhile_append]
      split
      · rename_i hall
        rw [List.takeWhile_cons_of_pos (by decide), List.takeWhile_nil,
          trim_blank_end (by decide), (List.takeWhile_prefix _).eq_of_length hall]
      · rfl
    · rw [String.ofList_toList]
  rw [confEvent, confEvent, htrim]

end Entries

/-! ## Named sections -/

section Named

theorem mem_trim {s : String} {c : Char} (h : c ∈ s.toList) :
    isWhitespace c = true ∨ c ∈ (trim s).toList := by
  rw [← List.takeWhile_append_dropWhile (p := isWhitespace) (l := s.toList), List.mem_append] at h
  rcases h with h | h
  · exact Or.inl (List.mem_takeWhile_imp h)
  · rw [← @List.rdropWhile_append_rtakeWhile _ isWhitespace (s.toList.dropWhile isWhitespace),
      List.mem_append] at h
    rcases h with h | h
    · right
      rw [trim, String.toList_ofList]
      exact h
    · exact Or.inl (List.mem_rtakeWhile_imp h)

structure BracketName (name inner : String) : Prop where
  text : (toAsciiLowercase name).toList = '[' :: (inner.toList ++ [']'])
  no_comment : '#' ∉ inner.toList

theorem bracket_peer : BracketName "[peer]" "peer" := ⟨by decide, by decide⟩

theorem bracket_interface : BracketName "[interface]" "interface" := ⟨by decide, by decide⟩

theorem bracket_routeguard : BracketName "[routeguard]" "routeguard" := ⟨by decide, by decide⟩

/-- A line that is a section name up to case is a header of that name. -/
theorem confEvent_named {line name inner : String} (hname : BracketName name inner)
    (h : eqIgnoreAsciiCase (trim line) name = true) :
    ∃ text, confEvent line = some (.header text) ∧ toAsciiLowercase text = inner := by
  have hlower : (toAsciiLowercase (trim line)).toList = '[' :: (inner.toList ++ [']']) := by
    rw [eq_of_beq h, hname.text]
  rw [toAsciiLowercase, String.toList_ofList] at hlower
  obtain ⟨first, rest, htrim, hfirst, hrest⟩ := List.map_eq_cons_iff.mp hlower
  obtain ⟨middle, last, rfl, hmiddle, hlast⟩ := List.map_eq_append_iff.mp hrest
  obtain ⟨final, rfl, hfinal⟩ := List.map_eq_singleton_iff.mp hlast
  obtain rfl := (toLower_eq_iff (by decide) first).mp hfirst
  obtain rfl := (toLower_eq_iff (by decide) final).mp hfinal
  have hcomment : '#' ∉ line.toList := by
    intro hmem
    rcases mem_trim hmem with hblank | hmem
    · revert hblank
      decide
    · rw [htrim] at hmem
      have hmiddle' : '#' ∈ middle := by simpa using hmem
      apply hname.no_comment
      rw [← hmiddle]
      exact List.mem_map.mpr ⟨'#', hmiddle', by decide⟩
  have hline : trim (beforeComment line) = trim line := by
    rw [← String.ofList_toList (s := line), beforeComment_of_plain hcomment]
  have hne : trim line ≠ "" := by
    intro hempty
    rw [hempty] at htrim
    cases htrim
  have hsection : isSectionLine (trim line) = true := by
    rw [isSectionLine, Bool.and_eq_true, startsWith, endsWith, List.isPrefixOf_iff_prefix,
      List.isSuffixOf_iff_suffix, htrim]
    exact ⟨⟨middle ++ [']'], rfl⟩, ⟨'[' :: middle, rfl⟩⟩
  refine ⟨sectionOf (trim line), ?_, ?_⟩
  · rw [confEvent, hline]
    dsimp only
    rw [if_neg hne, if_pos hsection]
  · rw [sectionOf, htrim, List.drop_one, List.tail_cons, List.dropLast_concat, toAsciiLowercase,
      String.toList_ofList, hmiddle, String.ofList_toList]

theorem not_named {line : String} (h : isHeaderLine line = false) :
    eqIgnoreAsciiCase (trim line) "[routeguard]" = false ∧
      eqIgnoreAsciiCase (trim line) "[peer]" = false ∧
      eqIgnoreAsciiCase (trim line) "[interface]" = false := by
  have hnot : ∀ name inner, BracketName name inner →
      eqIgnoreAsciiCase (trim line) name = false := by
    intro name inner hname
    rw [← Bool.not_eq_true]
    intro hnamed
    obtain ⟨text, hevent, -⟩ := confEvent_named hname hnamed
    rw [isHeaderLine, hevent] at h
    cases h
  exact ⟨hnot _ _ bracket_routeguard, hnot _ _ bracket_peer, hnot _ _ bracket_interface⟩

end Named
end RouteGuard
