import RouteGuard.Core.ConfRoundTrip
import RouteGuard.Lib.Base64
import RouteGuard.Platform.WgConf

/-! # Keys of the driver stack

`decode_b64` takes more than canonical base64 and ignores what is left over; on
canonical texts it gives back what was encoded. -/
set_option autoImplicit false
namespace RouteGuard

/-! ## The accumulator of `decode_b64` -/

/-- One character of the alphabet: six bits more, and a byte once there are eight. -/
theorem decodeB64Loop_char (out : List UInt8) (buf bits : Nat) {n : Nat} (h : n < 64)
    (rest : List Char) :
    decodeB64Loop out buf bits (Base64.char n :: rest) =
      if 8 ≤ bits + 6 then
        decodeB64Loop (out ++ [UInt8.ofNat ((buf * 64 + n) / 2 ^ (bits + 6 - 8))])
          ((buf * 64 + n) % 2 ^ (bits + 6 - 8)) (bits + 6 - 8) rest
      else decodeB64Loop out (buf * 64 + n) (bits + 6) rest := by
  have hval : b64Table.idxOf? (Base64.char n) = some n := Base64.value_char h
  have hbuf : buf <<< 6 ||| n = buf * 64 + n := by
    rw [← Nat.shiftLeft_add_eq_or_of_lt (by omega), Nat.shiftLeft_eq]
  rw [decodeB64Loop, if_neg (Base64.char_ne_pad h), hval]
  dsimp only
  rw [hbuf, Nat.shiftRight_eq_div_pow, Nat.and_two_pow_sub_one_eq_mod]

theorem decodeB64Loop_pad (out : List UInt8) (buf bits : Nat) (rest : List Char) :
    decodeB64Loop out buf bits ('=' :: rest) = .ok out := by
  rw [decodeB64Loop, if_pos rfl]

theorem decodeB64Loop_first (out : List UInt8) {w x : Nat} (hw : w < 64) (hx : x < 64)
    (rest : List Char) :
    decodeB64Loop out 0 0 (Base64.char w :: Base64.char x :: rest) =
      decodeB64Loop (out ++ [UInt8.ofNat (w * 4 + x / 16)]) (x % 16) 4 rest := by
  have hbyte : (w * 64 + x) / 16 = w * 4 + x / 16 := by omega
  have hrest : (w * 64 + x) % 16 = x % 16 := by omega
  rw [decodeB64Loop_char _ _ _ hw, if_neg (by omega), Nat.zero_mul, Nat.zero_add,
    decodeB64Loop_char _ _ _ hx, if_pos (by omega)]
  norm_num only [hbyte, hrest]

theorem decodeB64Loop_second (out : List UInt8) (buf : Nat) {y : Nat} (hy : y < 64)
    (rest : List Char) :
    decodeB64Loop out buf 4 (Base64.char y :: rest) =
      decodeB64Loop (out ++ [UInt8.ofNat (buf * 16 + y / 4)]) (y % 4) 2 rest := by
  have hbyte : (buf * 64 + y) / 4 = buf * 16 + y / 4 := by omega
  have hrest : (buf * 64 + y) % 4 = y % 4 := by omega
  rw [decodeB64Loop_char _ _ _ hy, if_pos (by omega)]
  norm_num only [hbyte, hrest]

theorem decodeB64Loop_third (out : List UInt8) (buf : Nat) {z : Nat} (hz : z < 64)
    (rest : List Char) :
    decodeB64Loop out buf 2 (Base64.char z :: rest) =
      decodeB64Loop (out ++ [UInt8.ofNat (buf * 64 + z)]) 0 0 rest := by
  rw [decodeB64Loop_char _ _ _ hz, if_pos (by omega)]
  norm_num only [Nat.mod_one, Nat.div_one]

/-- Between the groups of four characters the accumulator is empty. -/
theorem decodeB64Loop_encode (bytes out : List UInt8) :
    decodeB64Loop out 0 0 (Base64.encode bytes) = .ok (out ++ bytes) := by
  induction bytes using Base64.encode.induct generalizing out with
  | case1 => rw [Base64.encode, decodeB64Loop, List.append_nil]
  | case2 a =>
      have ha := a.toNat_lt
      have hfirst := Base64.first_byte a (show 0 < 16 by omega)
      rw [Nat.add_zero] at hfirst
      rw [Base64.encode, decodeB64Loop_first out (by omega) (by omega), decodeB64Loop_pad, hfirst]
  | case3 a b =>
      have ha := a.toNat_lt
      have hb := b.toNat_lt
      have hsecond := Base64.second_byte (a.toNat % 4) b (show 0 < 4 by omega)
      rw [Nat.add_zero] at hsecond
      rw [Base64.encode, decodeB64Loop_first out (by omega) (by omega),
        decodeB64Loop_second _ _ (by omega), decodeB64Loop_pad,
        Base64.first_byte a (by omega), hsecond, List.append_assoc]
      rfl
  | case4 a b c rest ih =>
      have ha := a.toNat_lt
      have hb := b.toNat_lt
      have hc := c.toNat_lt
      rw [Base64.encode, decodeB64Loop_first out (by omega) (by omega),
        decodeB64Loop_second _ _ (by omega), decodeB64Loop_third _ _ (by omega),
        Base64.first_byte a (by omega), Base64.second_byte _ b (by omega), Base64.third_byte, ih]
      simp only [List.append_assoc, List.cons_append, List.nil_append]

theorem plain_encode (bytes : List UInt8) :
    Graphic (Base64.encode bytes) ∧ '#' ∉ Base64.encode bytes := by
  have hletters : Base64.alphabet.all (fun c => !isWhitespace c && c != '#') = true := by
    decide +kernel
  have halphabet : ∀ c ∈ Base64.alphabet, isWhitespace c = false ∧ c ≠ '#' := by
    intro c hc
    simpa using List.all_eq_true.mp hletters c hc
  have hall : ∀ c ∈ Base64.encode bytes, isWhitespace c = false ∧ c ≠ '#' := by
    intro c hc
    rcases Base64.mem_encode bytes c hc with rfl | hc
    · decide
    · exact halphabet c hc
  constructor
  · intro c hc
    exact (hall c hc).1
  · intro hc
    exact (hall '#' hc).2 rfl

theorem graphic_encode (bytes : List UInt8) : Graphic (Base64.encode bytes) :=
  (plain_encode bytes).1

theorem decodeB64_encode {text : String} {bytes : List UInt8}
    (h : text.toList = Base64.encode bytes) : decodeB64 text = .ok bytes := by
  have hkept : (Base64.encode bytes).filter (fun c => !isWhitespace c) = Base64.encode bytes := by
    apply List.filter_eq_self.mpr
    intro c hmem
    rw [graphic_encode bytes c hmem]
    rfl
  rw [decodeB64, h, hkept, decodeB64Loop_encode, List.nil_append]

/-! ## Keys -/

theorem trim_graphic {text : String} (h : Graphic text.toList) : trim text = text := by
  rw [← String.ofList_toList (s := text), trim_of_trimmed h.trimmed]

theorem decodeKey_of_bytes {text : String} {key : WireguardKey}
    (h : decodeB64 (trim text) = .ok key.toList) : decodeKey text = .ok key := by
  have hlength : key.toList.length = 32 := key.length_toList
  rw [decodeKey, h]
  dsimp only
  rw [dif_pos hlength]
  rfl

theorem decodeKey_encode {key : WireguardKey} {text : String}
    (h : text.toList = Base64.encode key.toList) : decodeKey text = .ok key := by
  apply decodeKey_of_bytes
  rw [trim_graphic (by rw [h]; exact graphic_encode key.toList)]
  exact decodeB64_encode h

theorem encode_ne_nil (key : WireguardKey) : Base64.encode key.toList ≠ [] := by
  cases hbytes : key.toList with
  | nil =>
      have hlength := key.length_toList
      rw [hbytes] at hlength
      cases hlength
  | cons a rest => rcases rest with _ | ⟨b, _ | ⟨c, rest⟩⟩ <;> simp [Base64.encode]

end RouteGuard
