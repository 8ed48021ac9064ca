import RouteGuard.Core.Numbers
import Mathlib.Tactic.IntervalCases

/-! # Reading back what was written

The text of a socket address reads back as the address, in each of the forms
that the text of an IPv6 address can take. -/
set_option autoImplicit false
namespace RouteGuard

/-! ## Digits -/

section Digits
variable {radix : Nat}

theorem toDigit_digitChar {d : Nat} (hd : d < 16) (hradix : d < radix) :
    toDigit radix d.digitChar = some d := by
  have hvalue : ∀ e < 16, (if '0' ≤ e.digitChar ∧ e.digitChar ≤ '9' then
        e.digitChar.toNat - '0'.toNat
      else if 'a' ≤ e.digitChar ∧ e.digitChar ≤ 'z' then e.digitChar.toNat - 'a'.toNat + 10
      else if 'A' ≤ e.digitChar ∧ e.digitChar ≤ 'Z' then e.digitChar.toNat - 'A'.toNat + 10
      else radix) = e := by
    intro e he
    interval_cases e <;> rfl
  simp only [toDigit, hvalue d hd, hradix, if_true]

theorem isDigitOf_toDigits (hbase : 1 < radix) (hradix : radix ≤ 16) :
    ∀ (n : Nat), ∀ c ∈ Nat.toDigits radix n, isDigitOf radix c = true := by
  intro n
  induction n using Nat.strongRecOn with
  | ind n ih =>
      intro c hmem
      by_cases hn : n < radix
      · rw [Nat.toDigits_of_lt_base hn, List.mem_singleton] at hmem
        rw [hmem, isDigitOf, toDigit_digitChar (by omega) hn]
        rfl
      · rw [Nat.toDigits_of_base_le hbase (Nat.not_lt.mp hn), List.mem_append,
          List.mem_singleton] at hmem
        rcases hmem with hmem | hmem
        · exact ih (n / radix) (Nat.div_lt_self (by omega) hbase) c hmem
        · have hlt := Nat.mod_lt n (by omega : 0 < radix)
          rw [hmem, isDigitOf, toDigit_digitChar (by omega) hlt]
          rfl

theorem digitsValue_toDigits (hbase : 1 < radix) (hradix : radix ≤ 16) :
    ∀ (n : Nat), digitsValue radix (Nat.toDigits radix n) = n := by
  intro n
  induction n using Nat.strongRecOn with
  | ind n ih =>
      by_cases hn : n < radix
      · rw [Nat.toDigits_of_lt_base hn]
        simp [digitsValue, toDigit_digitChar (by omega) hn]
      · have hlt := Nat.mod_lt n (by omega : 0 < radix)
        have hrest := ih (n / radix) (Nat.div_lt_self (by omega) hbase)
        rw [Nat.toDigits_of_base_le hbase (Nat.not_lt.mp hn), digitsValue, List.foldl_append]
        rw [digitsValue] at hrest
        rw [hrest]
        simp only [List.foldl_cons, List.foldl_nil, toDigit_digitChar (by omega) hlt,
          Option.getD_some]
        exact Nat.div_add_mod' n radix

theorem head_toDigits (hbase : 1 < radix) :
    ∀ (n : Nat), 0 < n → (Nat.toDigits radix n).head? ≠ some '0' := by
  intro n
  induction n using Nat.strongRecOn with
  | ind n ih =>
      intro hpos
      by_cases hn : n < radix
      · rw [Nat.toDigits_of_lt_base hn]
        simp only [List.head?_cons, ne_eq, Option.some.injEq, Nat.digitChar_eq_zero]
        omega
      · have hle := Nat.not_lt.mp hn
        have hdiv := Nat.div_pos hle (by omega)
        rw [Nat.toDigits_of_base_le hbase hle, List.head?_append_of_ne_nil _ Nat.toDigits_ne_nil]
        exact ih (n / radix) (Nat.div_lt_self (by omega) hbase) hdiv

theorem not_zeroPrefixed (hbase : 1 < radix) (n : Nat) :
    (decide ((Nat.toDigits radix n).head? = some '0') &&
      decide (1 < (Nat.toDigits radix n).length)) = false := by
  cases n with
  | zero => rw [Nat.toDigits_zero]; rfl
  | succ n => simp [head_toDigits hbase (n + 1) (Nat.succ_pos n)]

/-- The text after a number does not go on with a digit. -/
def Ends (radix : Nat) (rest : List Char) : Prop := ∀ c ∈ rest.head?, isDigitOf radix c = false

theorem takeWhile_of_ends {rest : List Char} (h : Ends radix rest) :
    rest.takeWhile (isDigitOf radix) = [] := by
  cases rest with
  | nil => rfl
  | cons c rest => simp [h c rfl]

theorem dropWhile_of_ends {rest : List Char} (h : Ends radix rest) :
    rest.dropWhile (isDigitOf radix) = rest := by
  cases rest with
  | nil => rfl
  | cons c rest => simp [h c rfl]

theorem readNumber_toDigits (hbase : 1 < radix) (hradix : radix ≤ 16) {maxDigits : Option Nat}
    (allowZeroPrefix : Bool) {bound n : Nat} (hbound : n < bound)
    (hmax : ∀ most ∈ maxDigits, (Nat.toDigits radix n).length ≤ most) {rest : List Char}
    (hrest : Ends radix rest) :
    readNumber radix maxDigits allowZeroPrefix bound (Nat.toDigits radix n ++ rest) =
      some (n, rest) := by
  have hdigits := isDigitOf_toDigits hbase hradix n
  have htake : (Nat.toDigits radix n ++ rest).takeWhile (isDigitOf radix) =
      Nat.toDigits radix n := by
    rw [List.takeWhile_append_of_pos hdigits, takeWhile_of_ends hrest, List.append_nil]
  have hdrop : (Nat.toDigits radix n ++ rest).dropWhile (isDigitOf radix) = rest := by
    rw [List.dropWhile_append_of_pos hdigits, dropWhile_of_ends hrest]
  have hany :
      (maxDigits.any fun most => decide (most < (Nat.toDigits radix n).length)) = false := by
    cases maxDigits with
    | none => rfl
    | some most => simpa using hmax most rfl
  have hzero : (!allowZeroPrefix && decide ((Nat.toDigits radix n).head? = some '0') &&
      decide (1 < (Nat.toDigits radix n).length)) = false := by
    rw [Bool.and_assoc, not_zeroPrefixed hbase n, Bool.and_false]
  simp only [readNumber, htake, hdrop, hany, hzero, Nat.toDigits_ne_nil,
    digitsValue_toDigits hbase hradix n, hbound, if_true, if_false, Bool.false_eq_true]

theorem readNumber_of_ends {maxDigits : Option Nat} {allowZeroPrefix : Bool} {bound : Nat}
    {input : List Char} (h : Ends radix input) :
    readNumber radix maxDigits allowZeroPrefix bound input = none := by
  simp only [readNumber, takeWhile_of_ends h, if_true]

theorem ends_cons {c : Char} (h : isDigitOf radix c = false) (rest : List Char) :
    Ends radix (c :: rest) := by
  intro d hd
  cases hd
  exact h

theorem ends_nil : Ends radix [] := by
  intro c hc
  cases hc

theorem foldlM_pushDigit {bound : Nat} :
    ∀ n < bound, (Nat.toDigits 10 n).foldlM (pushDigit bound) 0 = .ok n := by
  intro n
  induction n using Nat.strongRecOn with
  | ind n ih =>
      intro hbound
      by_cases hn : n < 10
      · rw [Nat.toDigits_of_lt_base hn, List.foldlM_cons, pushDigit,
          toDigit_digitChar (by omega) hn]
        dsimp only
        rw [if_pos (by omega), Nat.zero_mul, Nat.zero_add]
        rfl
      · have hlt := Nat.mod_lt n (by omega : 0 < 10)
        have hrest := ih (n / 10) (by omega) (by omega)
        have hpush : pushDigit bound (n / 10) (n % 10).digitChar = .ok n := by
          rw [pushDigit, toDigit_digitChar (by omega) hlt]
          dsimp only
          rw [if_pos (by omega), Nat.div_add_mod']
        rw [Nat.toDigits_of_base_le (by omega) (by omega), List.foldlM_append, hrest]
        change [(n % 10).digitChar].foldlM (pushDigit bound) (n / 10) = .ok n
        rw [List.foldlM_cons, hpush]
        rfl

theorem parseUnsigned_of_toDigits {bound n : Nat} (hbound : n < bound) {s : String}
    (hs : s.toList = Nat.toDigits 10 n) : parseUnsigned bound s = .ok n := by
  have hread := foldlM_pushDigit n hbound
  have hdigits := isDigitOf_toDigits (by omega) (by omega : 10 ≤ 16) n
  rw [parseUnsigned, hs]
  cases htext : Nat.toDigits 10 n with
  | nil => exact absurd htext Nat.toDigits_ne_nil
  | cons c rest =>
      have hfirst : c ≠ '+' := by
        rintro rfl
        have hplus := hdigits '+' (by rw [htext]; exact List.mem_cons_self)
        revert hplus
        decide
      rw [htext] at hread
      split
      · rename_i heq
        cases heq
      · rename_i heq
        cases heq
        exact absurd rfl hfirst
      · rename_i heq
        cases heq
        exact absurd rfl hfirst
      · exact hread

theorem parseU16_toString (n : UInt16) : parseU16 (ToString.toString n) = .ok n := by
  have htext : (ToString.toString n).toList = Nat.toDigits 10 n.toNat := Nat.toList_repr
  rw [parseU16, parseUnsigned_of_toDigits n.toNat_lt htext]
  exact congrArg Except.ok UInt16.ofNat_toNat

end Digits

@[simp]
theorem readGivenChar_cons (c : Char) (rest : List Char) :
    readGivenChar c (c :: rest) = some rest := by
  simp [readGivenChar]

theorem readGivenChar_of_ne {target : Char} {input : List Char}
    (h : ∀ c ∈ input.head?, c ≠ target) : readGivenChar target input = none := by
  cases input with
  | nil => rfl
  | cons c rest => simp [readGivenChar, h c rfl]

/-! ## IPv4 -/

theorem readOctet_toDigits {n : Nat} (hn : n < 256) {rest : List Char} (hrest : Ends 10 rest) :
    readOctet (Nat.toDigits 10 n ++ rest) = some (n, rest) := by
  apply readNumber_toDigits (by omega) (by omega) false hn _ hrest
  intro most hmost
  cases hmost
  have hlt : n < 10 ^ 3 := by omega
  exact (Nat.length_toDigits_le_iff (by omega) (by omega)).mpr hlt

theorem ends_dot (rest : List Char) : Ends 10 ('.' :: rest) := ends_cons (by decide) rest

theorem dottedQuad_eq (a b c d : Nat) (rest : List Char) :
    dottedQuad [a, b, c, d] ++ rest =
      Nat.toDigits 10 a ++ '.' :: (Nat.toDigits 10 b ++ '.' :: (Nat.toDigits 10 c ++ '.' ::
        (Nat.toDigits 10 d ++ rest))) := by
  simp [dottedQuad, List.intercalate, List.intersperse]

theorem readIpv4_dottedQuad {a b c d : Nat} (ha : a < 256) (hb : b < 256) (hc : c < 256)
    (hd : d < 256) {rest : List Char} (hrest : Ends 10 rest) :
    readIpv4 (dottedQuad [a, b, c, d] ++ rest) = some ([a, b, c, d], rest) := by
  rw [dottedQuad_eq]
  simp only [readIpv4, readSeparator, Nat.lt_irrefl, if_false, Nat.zero_lt_succ, if_true,
    readOctet_toDigits ha (ends_dot _), readOctet_toDigits hb (ends_dot _),
    readOctet_toDigits hc (ends_dot _), readOctet_toDigits hd hrest, Option.bind_eq_bind,
    Option.bind_some, readGivenChar_cons]
  rfl

/-- No address is read where the decimal digits in front are not followed by a dot. -/
theorem readIpv4_eq_none {input : List Char}
    (h : ∀ c ∈ (input.dropWhile (isDigitOf 10)).head?, c ≠ '.') : readIpv4 input = none := by
  have hfirst : readSeparator '.' 0 readOctet input = none ∨
      ∃ n, readSeparator '.' 0 readOctet input = some (n, input.dropWhile (isDigitOf 10)) := by
    simp only [readSeparator, Nat.lt_irrefl, if_false, readOctet, readNumber]
    split_ifs <;> simp
  rcases hfirst with hnone | ⟨n, hsome⟩
  · simp only [readIpv4, hnone]
    rfl
  · simp only [readIpv4, hsome, Option.bind_eq_bind, Option.bind_some]
    simp only [readSeparator, Nat.zero_lt_one, if_true, readGivenChar_of_ne h, Option.bind_none]

/-! ## Groups of an IPv6 address -/

/-- What stands in front of group `index`. -/
def groupSep (index : Nat) : List Char := if 0 < index then [':'] else []

def groupText : Nat → List Nat → List Char
  | _, [] => []
  | index, group :: rest => groupSep index ++ Nat.toDigits 16 group ++ groupText (index + 1) rest

theorem readSeparator_groupSep {A : Type} (index : Nat) (inner : List Char → Option (A × List Char))
    (input : List Char) :
    readSeparator ':' index inner (groupSep index ++ input) = inner input := by
  by_cases hindex : 0 < index
  · simp [readSeparator, groupSep, hindex]
  · simp [readSeparator, groupSep, hindex]

theorem groupText_succ (index : Nat) (groups : List Nat) :
    groupText (index + 1) groups = groups.flatMap fun group => ':' :: Nat.toDigits 16 group := by
  induction groups generalizing index with
  | nil => rfl
  | cons group rest ih => simp [groupText, groupSep, ih]

theorem hexGroups_eq (groups : List Nat) : hexGroups groups = groupText 0 groups := by
  cases groups with
  | nil => rfl
  | cons group rest =>
      rw [groupText, groupText_succ]
      induction rest generalizing group with
      | nil => simp [hexGroups, groupSep, List.intercalate]
      | cons second rest ih =>
          have hrest := ih second
          simp only [hexGroups, List.map_cons, groupSep, Nat.lt_irrefl, if_false, List.nil_append,
            List.intercalate_cons_cons, List.flatMap_cons] at hrest ⊢
          rw [hrest]
          simp

def AddrEnds (rest : List Char) : Prop :=
  ∀ c ∈ rest.head?, c ≠ ':' ∧ c ≠ '.' ∧ isDigitOf 16 c = false

/-- Neither an embedded address nor a group can be read as group `index`. -/
def Stops (index : Nat) (rest : List Char) : Prop :=
  readSeparator ':' index readIpv4 rest = none ∧ readSeparator ':' index readGroup rest = none

theorem isDigitOf_ten {c : Char} (h : isDigitOf 16 c = false) : isDigitOf 10 c = false := by
  simp only [isDigitOf, toDigit, Option.isSome_eq_false_iff, Option.isNone_iff_eq_none,
    ite_eq_right_iff, reduceCtorEq, imp_false] at h ⊢
  split_ifs at h ⊢ <;> omega

theorem AddrEnds.ends {rest : List Char} (h : AddrEnds rest) : Ends 16 rest :=
  fun c hc => (h c hc).2.2

theorem AddrEnds.ends_ten {rest : List Char} (h : AddrEnds rest) : Ends 10 rest :=
  fun c hc => isDigitOf_ten (h c hc).2.2

theorem AddrEnds.stops {rest : List Char} (h : AddrEnds rest) (index : Nat) : Stops index rest := by
  have hcolon : readGivenChar ':' rest = none := readGivenChar_of_ne fun c hc => (h c hc).1
  have hipv4 : readIpv4 rest = none := by
    apply readIpv4_eq_none
    rw [dropWhile_of_ends h.ends_ten]
    exact fun c hc => (h c hc).2.1
  have hgroup : readGroup rest = none := readNumber_of_ends h.ends
  by_cases hindex : 0 < index
  · simp [Stops, readSeparator, hindex, hcolon]
  · simp [Stops, readSeparator, hindex, hipv4, hgroup]

theorem stops_colons (index : Nat) (rest : List Char) : Stops index (':' :: ':' :: rest) := by
  have hends : ∀ text : List Char, Ends 16 (':' :: text) := ends_cons (by decide)
  have hends' : ∀ text : List Char, Ends 10 (':' :: text) := ends_cons (by decide)
  have hipv4 : ∀ text : List Char, readIpv4 (':' :: text) = none := by
    intro text
    apply readIpv4_eq_none
    rw [dropWhile_of_ends (hends' text)]
    intro c hc
    cases hc
    decide
  have hgroup : ∀ text : List Char, readGroup (':' :: text) = none :=
    fun text => readNumber_of_ends (hends text)
  by_cases hindex : 0 < index
  · simp [Stops, readSeparator, hindex, hipv4, hgroup]
  · simp [Stops, readSeparator, hindex, hipv4, hgroup]

theorem head_dropWhile_append {p : Char → Bool} {Q : Char → Prop} :
    ∀ {front rest : List Char}, (∀ c ∈ front, Q c) → (∀ c ∈ (rest.dropWhile p).head?, Q c) →
      ∀ c ∈ ((front ++ rest).dropWhile p).head?, Q c := by
  intro front
  induction front with
  | nil => intro rest _ hrest; exact hrest
  | cons d front ih =>
      intro rest hfront hrest
      by_cases hd : p d = true
      · rw [List.cons_append, List.dropWhile_cons_of_pos hd]
        exact ih (fun c hc => hfront c (List.mem_cons_of_mem d hc)) hrest
      · rw [List.cons_append, List.dropWhile_cons_of_neg hd]
        intro c hc
        cases hc
        exact hfront d List.mem_cons_self

theorem groupText_follows (index : Nat) (groups : List Nat) {rest : List Char}
    (hrest : ∀ c ∈ rest.head?, c ≠ '.' ∧ isDigitOf 16 c = false) :
    ∀ c ∈ (groupText (index + 1) groups ++ rest).head?, c ≠ '.' ∧ isDigitOf 16 c = false := by
  cases groups with
  | nil => exact hrest
  | cons group rest' =>
      intro c hc
      rw [groupText_succ] at hc
      cases hc
      exact ⟨by decide, by decide⟩

theorem readIpv4_group (group : Nat) {rest : List Char}
    (hrest : ∀ c ∈ rest.head?, c ≠ '.' ∧ isDigitOf 16 c = false) :
    readIpv4 (Nat.toDigits 16 group ++ rest) = none := by
  apply readIpv4_eq_none
  apply head_dropWhile_append
  · intro c hc hdot
    have hdigit := isDigitOf_toDigits (by omega) (Nat.le_refl 16) group c hc
    rw [hdot] at hdigit
    exact absurd hdigit (by decide)
  · have hends : Ends 10 rest := fun c hc => isDigitOf_ten (hrest c hc).2
    rw [dropWhile_of_ends hends]
    exact fun c hc => (hrest c hc).1

theorem readGroup_toDigits {group : Nat} (hgroup : group < 65536) {rest : List Char}
    (hrest : Ends 16 rest) : readGroup (Nat.toDigits 16 group ++ rest) = some (group, rest) := by
  apply readNumber_toDigits (by omega) (Nat.le_refl 16) true hgroup _ hrest
  intro most hmost
  cases hmost
  have hlt : group < 16 ^ 4 := by omega
  exact (Nat.length_toDigits_le_iff (by omega) (by omega)).mpr hlt

theorem readGroups_groupText :
    ∀ (groups : List Nat) (room index : Nat) (rest : List Char), groups.length ≤ room →
      (∀ group ∈ groups, group < 65536) →
      (groups.length < room → Stops (index + groups.length) rest) →
      (∀ c ∈ rest.head?, c ≠ '.' ∧ isDigitOf 16 c = false) →
      readGroups room index (groupText index groups ++ rest) = (groups, false, rest) := by
  intro groups
  induction groups with
  | nil =>
      intro room index rest _ _ hstops _
      cases room with
      | zero => rfl
      | succ room =>
          obtain ⟨hipv4, hgroup⟩ := hstops (Nat.succ_pos room)
          simp only [List.length_nil, Nat.add_zero] at hipv4 hgroup
          simp only [readGroups, groupText, List.nil_append, hipv4, hgroup, ite_self]
  | cons group groups ih =>
      intro room index rest hroom hlt hstops hrest
      cases room with
      | zero => simp at hroom
      | succ room =>
          have hfollows := groupText_follows index groups hrest
          have hends : Ends 16 (groupText (index + 1) groups ++ rest) :=
            fun c hc => (hfollows c hc).2
          have hlen : index + 1 + groups.length = index + (groups.length + 1) := by omega
          have hnext := ih room (index + 1) rest (by simpa using hroom)
            (fun g hg => hlt g (List.mem_cons_of_mem group hg))
            (by
              intro hless
              rw [hlen]
              exact hstops (by simpa using hless))
            hrest
          simp only [readGroups, groupText, List.append_assoc, readSeparator_groupSep,
            readIpv4_group group hfollows, ite_self,
            readGroup_toDigits (hlt group List.mem_cons_self) hends, hnext]

/-! ## The run of zeroes -/

def ZeroSpan.Covers (span : ZeroSpan) (groups : List Nat) : Prop :=
  ∀ j, span.start ≤ j → j < span.start + span.len → groups[j]? = some 0

theorem covers_empty (start : Nat) (groups : List Nat) : (ZeroSpan.mk start 0).Covers groups := by
  intro j hstart hend
  simp only [Nat.add_zero] at hstart hend
  omega

theorem longestZeroSpan_covers {groups : List Nat} :
    ∀ (rest done : List Nat) (current longest : ZeroSpan), groups = done ++ rest →
      current.Covers groups → (current.len ≠ 0 → current.start + current.len = done.length) →
      longest.Covers groups → (longestZeroSpan done.length rest current longest).Covers groups := by
  intro rest
  induction rest with
  | nil => intro done current longest _ _ _ hlongest; exact hlongest
  | cons group rest ih =>
      intro done current longest hsplit hcurrent hend hlongest
      have hsplit' : groups = (done ++ [group]) ++ rest := by simp [hsplit]
      have hlen : (done ++ [group]).length = done.length + 1 := by simp
      rw [longestZeroSpan]
      by_cases hzero : group = 0
      · simp only [hzero, if_true]
        have hhere : groups[done.length]? = some 0 := by simp [hsplit, hzero]
        have hcover : (ZeroSpan.mk (if current.len = 0 then done.length else current.start)
            (current.len + 1)).Covers groups := by
          intro j hj hj'
          by_cases hfresh : current.len = 0
          · simp only [hfresh, if_true] at hj hj'
            have hsame : j = done.length := by omega
            rw [hsame]
            exact hhere
          · simp only [hfresh, if_false] at hj hj'
            have hreach := hend hfresh
            by_cases hin : j < current.start + current.len
            · exact hcurrent j hj hin
            · have hsame : j = done.length := by omega
              rw [hsame]
              exact hhere
        rw [← hlen]
        apply ih (done ++ [group]) _ _ hsplit' hcover
        · intro _
          rw [hlen]
          by_cases hfresh : current.len = 0
          · simp [hfresh]
          · simp only [hfresh, if_false]
            have hreach := hend hfresh
            omega
        · split
          · exact hcover
          · exact hlongest
      · simp only [hzero, if_false]
        rw [← hlen]
        exact ih (done ++ [group]) _ _ hsplit' (covers_empty 0 groups)
          (fun h => absurd rfl h) hlongest

theorem ZeroSpan.Covers.split {span : ZeroSpan} {groups : List Nat} (h : span.Covers groups) :
    groups.take span.start ++ (List.replicate span.len 0 ++ groups.drop (span.start + span.len)) =
      groups := by
  have hmiddle : (groups.drop span.start).take span.len = List.replicate span.len 0 := by
    apply List.ext_getElem?
    intro i
    rw [List.getElem?_take, List.getElem?_drop, List.getElem?_replicate]
    split
    · exact h (span.start + i) (by omega) (by omega)
    · rfl
  rw [← hmiddle, ← List.drop_drop, List.take_append_drop, List.take_append_drop]

theorem ZeroSpan.Covers.end_le {span : ZeroSpan} {groups : List Nat} (h : span.Covers groups)
    (hlen : 0 < span.len) : span.start + span.len ≤ groups.length := by
  have hlast := h (span.start + span.len - 1) (by omega) (by omega)
  have hlt := (List.getElem?_eq_some_iff.mp hlast).1
  omega

/-! ## IPv6 -/

theorem AddrEnds.follows {rest : List Char} (h : AddrEnds rest) :
    ∀ c ∈ rest.head?, c ≠ '.' ∧ isDigitOf 16 c = false :=
  fun c hc => ⟨(h c hc).2.1, (h c hc).2.2⟩

theorem colon_follows (text : List Char) :
    ∀ c ∈ (':' :: text).head?, c ≠ '.' ∧ isDigitOf 16 c = false := by
  intro c hc
  cases hc
  exact ⟨by decide, by decide⟩

theorem readIpv6_around (front back : List Nat) {rest : List Char}
    (hfront : ∀ group ∈ front, group < 65536) (hback : ∀ group ∈ back, group < 65536)
    (hlen : front.length + back.length < 8) (hrest : AddrEnds rest) :
    readIpv6 (groupText 0 front ++ ':' :: ':' :: (groupText 0 back ++ rest)) =
      some (front ++ List.replicate (8 - front.length - back.length) 0 ++ back, rest) := by
  have hhead := readGroups_groupText front 8 0 (':' :: ':' :: (groupText 0 back ++ rest))
    (by omega) hfront
    (fun _ => stops_colons _ _) (colon_follows _)
  have htail := readGroups_groupText back (8 - (front.length + 1)) 0 rest (by omega) hback
    (fun _ => hrest.stops _) hrest.follows
  have hshort : front.length ≠ 8 := by omega
  simp only [readIpv6, hhead, hshort, if_false, Bool.false_eq_true, Option.bind_eq_bind,
    readGivenChar_cons, Option.bind_some, htail]
  rfl

theorem readIpv6_full {groups : List Nat} {rest : List Char} (hlt : ∀ group ∈ groups, group < 65536)
    (hlen : groups.length = 8) (hrest : AddrEnds rest) :
    readIpv6 (groupText 0 groups ++ rest) = some (groups, rest) := by
  have hall := readGroups_groupText groups 8 0 rest (by omega) hlt
    (fun hless => absurd hless (by omega)) hrest.follows
  simp only [readIpv6, hall, hlen, if_true]

theorem readIpv6_mapped {a b c d : Nat} (ha : a < 256) (hb : b < 256) (hc : c < 256) (hd : d < 256)
    {rest : List Char} (hrest : AddrEnds rest) :
    readIpv6 ("::ffff:".toList ++ (dottedQuad [a, b, c, d] ++ rest)) =
      some ([0, 0, 0, 0, 0, 65535, a * 256 + b, c * 256 + d], rest) := by
  have htext : "::ffff:".toList ++ (dottedQuad [a, b, c, d] ++ rest) =
      ':' :: ':' ::
        (Nat.toDigits 16 65535 ++ (groupSep 1 ++ (dottedQuad [a, b, c, d] ++ rest))) := rfl
  have hhead : ∀ text, readGroups 8 0 (':' :: ':' :: text) = ([], false, ':' :: ':' :: text) := by
    intro text
    exact readGroups_groupText [] 8 0 _ (by simp) (by simp) (fun _ => stops_colons _ _)
      (colon_follows _)
  have hgroup : ∀ text, readGroup (Nat.toDigits 16 65535 ++ (groupSep 1 ++ text)) =
      some (65535, groupSep 1 ++ text) :=
    fun text => readGroup_toDigits (by omega) (ends_cons (by decide) text)
  have hnot : ∀ text, readIpv4 (Nat.toDigits 16 65535 ++ (groupSep 1 ++ text)) = none :=
    fun text => readIpv4_group 65535 (colon_follows text)
  have htail : readGroups 7 0
      (Nat.toDigits 16 65535 ++ (groupSep 1 ++ (dottedQuad [a, b, c, d] ++ rest))) =
        ([65535, a * 256 + b, c * 256 + d], true, rest) := by
    rw [readGroups]
    simp only [readSeparator, Nat.lt_irrefl, if_false, hnot, ite_self, hgroup]
    rw [readGroups]
    simp only [Nat.zero_add, Nat.zero_lt_succ, if_true, readSeparator_groupSep,
      readIpv4_dottedQuad ha hb hc hd hrest.ends_ten]
    rfl
  rw [htext]
  simp only [readIpv6, hhead, List.length_nil, Nat.zero_add, Nat.reduceSub, htail,
    readGivenChar_cons, Option.bind_eq_bind, Option.bind_some]
  rfl

theorem readIpv6_span {groups : List Nat} {span : ZeroSpan} (hlt : ∀ group ∈ groups, group < 65536)
    (hlen : groups.length = 8) (hcovers : span.Covers groups) (hlong : 0 < span.len)
    {rest : List Char} (hrest : AddrEnds rest) :
    readIpv6 (hexGroups (groups.take span.start) ++ "::".toList ++
      hexGroups (groups.drop (span.start + span.len)) ++ rest) = some (groups, rest) := by
  have hend := hcovers.end_le hlong
  have hfront : (groups.take span.start).length = span.start := by
    rw [List.length_take]
    omega
  have hback : (groups.drop (span.start + span.len)).length = 8 - (span.start + span.len) := by
    rw [List.length_drop, hlen]
  have hfill : 8 - (groups.take span.start).length - (groups.drop (span.start + span.len)).length =
      span.len := by
    rw [hfront, hback]
    omega
  have hread := readIpv6_around (groups.take span.start) (groups.drop (span.start + span.len))
    (fun group hg => hlt group (List.mem_of_mem_take hg))
    (fun group hg => hlt group (List.mem_of_mem_drop hg)) (by rw [hfront, hback]; omega) hrest
  rw [hfill, List.append_assoc, hcovers.split] at hread
  rw [hexGroups_eq, hexGroups_eq, List.append_assoc, List.append_assoc]
  exact hread

theorem readIpv6_ipv6Chars {groups : List Nat} (hlt : ∀ group ∈ groups, group < 65536)
    (hlen : groups.length = 8) {rest : List Char} (hrest : AddrEnds rest) :
    readIpv6 (ipv6Chars groups ++ rest) = some (groups, rest) := by
  rw [ipv6Chars]
  split
  · rename_i hmapped
    obtain ⟨g, g', hdrop⟩ : ∃ g g', groups.drop 6 = [g, g'] := by
      apply List.length_eq_two.mp
      simp [hlen]
    have hsplit : groups = [0, 0, 0, 0, 0, 65535] ++ [g, g'] := by
      rw [← hmapped, ← hdrop, List.take_append_drop]
    have hg : g < 65536 := hlt g (by simp [hsplit])
    have hg' : g' < 65536 := hlt g' (by simp [hsplit])
    have hread := readIpv6_mapped (a := g / 256) (b := g % 256) (c := g' / 256) (d := g' % 256)
      (by omega) (by omega) (by omega) (by omega) hrest
    rw [hdrop, List.append_assoc]
    simp only [List.flatMap_cons, List.flatMap_nil, List.append_nil, List.cons_append,
      List.nil_append]
    rw [hread, Nat.div_add_mod' g 256, Nat.div_add_mod' g' 256, hsplit]
    rfl
  · have hcovers : (longestZeroSpan 0 groups ⟨0, 0⟩ ⟨0, 0⟩).Covers groups :=
      longestZeroSpan_covers groups [] ⟨0, 0⟩ ⟨0, 0⟩ rfl (covers_empty 0 groups)
        (fun h => absurd rfl h) (covers_empty 0 groups)
    simp only
    split
    · rename_i hlong
      exact readIpv6_span hlt hlen hcovers (by omega) hrest
    · rw [hexGroups_eq]
      exact readIpv6_full hlt hlen hrest

theorem readIpv4_groupText (groups : List Nat) {rest : List Char}
    (hrest : ∀ c ∈ rest.head?, c ≠ '.' ∧ isDigitOf 16 c = false) :
    readIpv4 (groupText 0 groups ++ rest) = none := by
  cases groups with
  | nil =>
      have hends : Ends 10 rest := fun c hc => isDigitOf_ten (hrest c hc).2
      apply readIpv4_eq_none
      rw [groupText, List.nil_append, dropWhile_of_ends hends]
      exact fun c hc => (hrest c hc).1
  | cons group others =>
      have hfirst : groupText 0 (group :: others) ++ rest =
          Nat.toDigits 16 group ++ (groupText 1 others ++ rest) := by
        rw [groupText, ← List.append_assoc]
        rfl
      rw [hfirst]
      exact readIpv4_group group (groupText_follows 0 others hrest)

/-- No IPv4 address is read off the front of an IPv6 address. -/
theorem readIpv4_ipv6Chars (groups : List Nat) {rest : List Char} (hrest : AddrEnds rest) :
    readIpv4 (ipv6Chars groups ++ rest) = none := by
  rw [ipv6Chars]
  split
  · exact readIpv4_groupText [] (colon_follows _)
  · dsimp only
    split
    · rw [hexGroups_eq, List.append_assoc, List.append_assoc]
      exact readIpv4_groupText _ (colon_follows _)
    · rw [hexGroups_eq]
      exact readIpv4_groupText groups hrest.follows

/-! ## Values -/

theorem fromDigits_concat (base : Nat) (digits : List Nat) (d : Nat) :
    fromDigits base (digits ++ [d]) = fromDigits base digits * base + d := by
  rw [fromDigits, List.foldl_append]
  rfl

theorem fromDigits_digits (base : Nat) :
    ∀ (count n : Nat), fromDigits base
      ((List.range count).map fun i => n / base ^ (count - 1 - i) % base) = n % base ^ count := by
  intro count
  induction count with
  | zero => intro n; rw [Nat.pow_zero, Nat.mod_one]; rfl
  | succ count ih =>
      intro n
      have hfront : ((List.range count).map fun i => n / base ^ (count + 1 - 1 - i) % base) =
          (List.range count).map fun i => n / base / base ^ (count - 1 - i) % base := by
        apply List.map_congr_left
        intro i hi
        have hlt := List.mem_range.mp hi
        have hexp : count + 1 - 1 - i = count - 1 - i + 1 := by omega
        rw [hexp, Nat.pow_succ', Nat.div_div_eq_div_mul]
      have hlast : count + 1 - 1 - count = 0 := by omega
      rw [List.range_succ, List.map_append, List.map_singleton, fromDigits_concat, hfront,
        ih (n / base), hlast, Nat.pow_zero, Nat.div_one, Nat.pow_succ', Nat.mod_mul]
      ring

theorem ipv4OfOctets_octets (bits : BitVec 32) : ipv4OfOctets (octets bits) = .v4 bits := by
  have hvalue : fromDigits 256 (octets bits) = bits.toNat % 2 ^ 32 :=
    fromDigits_digits 256 4 bits.toNat
  rw [ipv4OfOctets, hvalue, Nat.mod_eq_of_lt bits.isLt, BitVec.ofNat_toNat, BitVec.setWidth_eq]

theorem ipv6OfGroups_segments (bits : BitVec 128) : ipv6OfGroups (segments bits) = .v6 bits := by
  have hvalue : fromDigits 65536 (segments bits) = bits.toNat % 2 ^ 128 :=
    fromDigits_digits 65536 8 bits.toNat
  rw [ipv6OfGroups, hvalue, Nat.mod_eq_of_lt bits.isLt, BitVec.ofNat_toNat, BitVec.setWidth_eq]

/-! ## Socket addresses -/

theorem readIpv4_octets (bits : BitVec 32) {rest : List Char} (hrest : Ends 10 rest) :
    readIpv4 (dottedQuad (octets bits) ++ rest) = some (octets bits, rest) := by
  have hlt : ∀ i, bits.toNat / 256 ^ i % 256 < 256 := fun i => Nat.mod_lt _ (by omega)
  exact readIpv4_dottedQuad (hlt 3) (hlt 2) (hlt 1) (hlt 0) hrest

theorem readIpv6_segments (bits : BitVec 128) {rest : List Char} (hrest : AddrEnds rest) :
    readIpv6 (ipv6Chars (segments bits) ++ rest) = some (segments bits, rest) := by
  apply readIpv6_ipv6Chars _ _ hrest
  · intro group hmem
    obtain ⟨i, _, rfl⟩ := List.mem_map.mp hmem
    exact Nat.mod_lt _ (by omega)
  · rfl

theorem IpAddr.parse_toString (ip : IpAddr) : IpAddr.parse ip.toString = some ip := by
  have hends : AddrEnds [] := by
    intro c hc
    cases hc
  rw [IpAddr.parse, IpAddr.toString, String.toList_ofList, ← List.append_nil ip.toChars, readIp]
  cases ip with
  | v4 bits =>
      rw [IpAddr.toChars, readIpv4_octets bits ends_nil]
      exact congrArg some (ipv4OfOctets_octets bits)
  | v6 bits =>
      rw [IpAddr.toChars, readIpv4_ipv6Chars _ hends, readIpv6_segments bits hends]
      exact congrArg some (ipv6OfGroups_segments bits)

theorem readPort_toString (port : UInt16) :
    readPort (':' :: (ToString.toString port).toList) = some (port, []) := by
  have htext : (ToString.toString port).toList = Nat.toDigits 10 port.toNat ++ [] := by
    rw [List.append_nil]
    exact Nat.toList_repr
  have hport : readNumber 10 none true 65536 (Nat.toDigits 10 port.toNat ++ []) =
      some (port.toNat, []) :=
    readNumber_toDigits (by omega) (by omega) true port.toNat_lt (by simp) ends_nil
  simp only [readPort, readGivenChar_cons, htext, hport, Option.bind_eq_bind, Option.bind_some,
    UInt16.ofNat_toNat]
  rfl

/-! ## Socket addresses -/

/-- The driver's parser reads no scope. -/
def SocketAddr.scopeless : SocketAddr → ScopedSocketAddr
  | ⟨.v4 bits, port⟩ => .v4 bits port
  | ⟨.v6 bits, port⟩ => .v6 bits port 0

namespace ScopedSocketAddr

/-- `<SocketAddr as Display>`: a scope of zero is not written. -/
def toString : ScopedSocketAddr → String
  | .v4 bits port => (IpAddr.v4 bits).toString ++ ":" ++ ToString.toString port
  | .v6 bits port scopeId =>
      let ip := (IpAddr.v6 bits).toString
      if scopeId = 0 then "[" ++ ip ++ "]:" ++ ToString.toString port
      else "[" ++ ip ++ "%" ++ ToString.toString scopeId ++ "]:" ++ ToString.toString port

instance : ToString ScopedSocketAddr := ⟨ScopedSocketAddr.toString⟩

theorem toString_unscoped (endpoint : ScopedSocketAddr)
    (h : ∀ bits port scopeId, endpoint = .v6 bits port scopeId → scopeId = 0) :
    endpoint.toString = endpoint.unscoped.toString := by
  cases endpoint with
  | v4 bits port => rfl
  | v6 bits port scopeId =>
      rw [toString, if_pos (h bits port scopeId rfl)]
      rfl

theorem readScopeId_toString {scopeId : UInt32} (rest : List Char) :
    readScopeId ('%' :: ((ToString.toString scopeId).toList ++ ']' :: rest)) =
      (scopeId, ']' :: rest) := by
  have htext : (ToString.toString scopeId).toList = Nat.toDigits 10 scopeId.toNat :=
    Nat.toList_repr
  have hnumber : readNumber 10 none true (2 ^ 32)
      (Nat.toDigits 10 scopeId.toNat ++ ']' :: rest) = some (scopeId.toNat, ']' :: rest) :=
    readNumber_toDigits (by omega) (by omega) true scopeId.toNat_lt (by simp)
      (ends_cons (by decide) _)
  simp only [readScopeId, readGivenChar_cons, htext, hnumber, Option.bind_some,
    UInt32.ofNat_toNat]

/-- An IPv6 address is read up to the bracket, with the scope in front of it. -/
theorem parse_bracketed {s : String} {bits : BitVec 128} {port : UInt16} {scopeId : UInt32}
    (scopeText : List Char)
    (hs : s.toList = '[' :: (ipv6Chars (segments bits) ++
      (scopeText ++ ']' :: ':' :: (ToString.toString port).toList)))
    (hends : AddrEnds (scopeText ++ ']' :: ':' :: (ToString.toString port).toList))
    (hscope : readScopeId (scopeText ++ ']' :: ':' :: (ToString.toString port).toList) =
      (scopeId, ']' :: ':' :: (ToString.toString port).toList)) :
    parse s = some (.v6 bits port scopeId) := by
  have hfirst : ∀ text, readV4 ('[' :: text) = none := by
    intro text
    have hnone : readIpv4 ('[' :: text) = none := by
      apply readIpv4_eq_none
      rw [dropWhile_of_ends (ends_cons (by decide) text)]
      intro c hc
      cases hc
      decide
    simp only [readV4, hnone]
    rfl
  have hgroups := ipv6OfGroups_segments bits
  rw [ipv6OfGroups, IpAddr.v6.injEq] at hgroups
  simp only [parse, hs, hfirst, Option.none_or, readV6, readGivenChar_cons, Option.bind_eq_bind,
    Option.bind_some, readIpv6_segments bits hends, hscope, readPort_toString, hgroups]
  rfl

theorem parse_toString (endpoint : ScopedSocketAddr) :
    parse endpoint.toString = some endpoint := by
  cases endpoint with
  | v4 bits port =>
      have htext : (toString (.v4 bits port)).toList =
          dottedQuad (octets bits) ++ ':' :: (ToString.toString port).toList := by
        simp [toString, IpAddr.toString, IpAddr.toChars]
      have hends : Ends 10 (':' :: (ToString.toString port).toList) := ends_cons (by decide) _
      have hoctets := ipv4OfOctets_octets bits
      rw [ipv4OfOctets, IpAddr.v4.injEq] at hoctets
      simp only [parse, htext, readV4, readIpv4_octets bits hends, readPort_toString, hoctets,
        Option.bind_eq_bind, Option.bind_some]
      rfl
  | v6 bits port scopeId =>
      by_cases hzero : scopeId = 0
      · subst hzero
        apply parse_bracketed []
        · simp [toString, IpAddr.toString, IpAddr.toChars]
        · intro c hc
          cases hc
          decide
        · rfl
      · apply parse_bracketed ('%' :: (ToString.toString scopeId).toList)
        · simp [toString, hzero, IpAddr.toString, IpAddr.toChars]
        · intro c hc
          cases hc
          decide
        · exact readScopeId_toString _

end ScopedSocketAddr

theorem SocketAddr.scopeless_toString (endpoint : SocketAddr) :
    endpoint.scopeless.toString = endpoint.toString := by
  rw [ScopedSocketAddr.toString_unscoped]
  · obtain ⟨ip, port⟩ := endpoint
    cases ip <;> rfl
  · obtain ⟨ip, port⟩ := endpoint
    cases ip with
    | v4 bits => rintro _ _ _ ⟨⟩
    | v6 bits =>
        rintro _ _ _ ⟨⟩
        rfl

theorem SocketAddr.parse_toString (endpoint : SocketAddr) :
    SocketAddr.parse endpoint.toString = some endpoint := by
  rw [← scopeless_toString, SocketAddr.parse, ScopedSocketAddr.parse_toString]
  obtain ⟨ip, port⟩ := endpoint
  cases ip <;> rfl

end RouteGuard
