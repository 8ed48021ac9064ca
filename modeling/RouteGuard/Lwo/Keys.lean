import RouteGuard.Lwo.Relay
import RouteGuard.Platform.WgKeys

/-! # Keys of the LWO layer

`keys.rs` reads the keys of a configuration with the `base64` crate, the driver
stack with a decoder of its own.  The engine of the crate is a parameter. -/
set_option autoImplicit false
namespace RouteGuard.Lwo

section Decode
-- `STANDARD.decode`, with the text of its error.
variable (standard : String → Except String (List UInt8))

def decodeKey (s : String) : Except RouteGuardError WireguardKey :=
  match standard (trim s) with
  | .error e => .error (.config ("invalid base64 key: " ++ e))
  | .ok bytes =>
      if h : bytes.length = 32 then .ok ⟨bytes.toArray, size_toArray_key h⟩
      else .error (.config ("key must be 32 bytes, got " ++ toString bytes.length))

/-- What the crate documents: the canonical texts of RFC 4648 are read, and no others. -/
structure Rfc4648 : Prop where
  decode_ok : ∀ text bytes, standard text = .ok bytes ↔ text.toList = Base64.encode bytes

end Decode

def referenceEngine (text : String) : Except String (List UInt8) :=
  match Base64.decode text.toList with
  | some bytes => .ok bytes
  | none => .error "Invalid padding"

theorem referenceEngine_rfc4648 : Rfc4648 referenceEngine where
  decode_ok text bytes := by
    rw [← Base64.decode_eq_some_iff, referenceEngine]
    cases Base64.decode text.toList with
    | none => simp
    | some decoded => simp

/-! ## The two layers -/

variable {standard : String → Except String (List UInt8)}

theorem decodeKey_ok_iff {text : String} {key : WireguardKey} :
    decodeKey standard text = .ok key ↔ standard (trim text) = .ok key.toList := by
  rw [decodeKey]
  cases hread : standard (trim text) with
  | error e => simp
  | ok bytes =>
      dsimp only
      constructor
      · intro h
        split_ifs at h with hlength
        cases h
        rfl
      · intro h
        cases h
        rw [dif_pos key.length_toList]
        rfl

/-- What the engine of the crate reads, the driver stack's decoder reads alike. -/
theorem decodeKey_adapter (hstandard : Rfc4648 standard) {text : String} {key : WireguardKey}
    (h : decodeKey standard text = .ok key) : RouteGuard.decodeKey text = .ok key := by
  have hread := decodeKey_ok_iff.mp h
  exact decodeKey_of_bytes (decodeB64_encode ((hstandard.decode_ok _ _).mp hread))

theorem decodeKey_encode (hstandard : Rfc4648 standard) {key : WireguardKey} {text : String}
    (htext : text.toList = Base64.encode key.toList) : decodeKey standard text = .ok key := by
  have htrim : trim text = text := by
    apply trim_graphic
    rw [htext]
    exact graphic_encode key.toList
  rw [decodeKey_ok_iff, htrim]
  exact (hstandard.decode_ok text key.toList).mpr htext

theorem decoders_agree (standard : String → Except String (List UInt8))
    (hstandard : Rfc4648 standard) :
    (∀ text bytes, standard text = .ok bytes → decodeB64 text = .ok bytes) ∧
    (∀ (key : WireguardKey) (text : String), text.toList = Base64.encode key.toList →
      RouteGuard.decodeKey text = .ok key ∧ decodeKey standard text = .ok key) ∧
    ∀ (text : String) (key key' : WireguardKey), RouteGuard.decodeKey text = .ok key →
      decodeKey standard text = .ok key' → key = key' := by
  refine ⟨fun text bytes hread => ?_, fun key text htext => ?_, fun text key key' hkey hkey' => ?_⟩
  · exact decodeB64_encode ((hstandard.decode_ok text bytes).mp hread)
  · have hlwo : decodeKey standard text = .ok key := decodeKey_encode hstandard htext
    exact ⟨decodeKey_adapter hstandard hlwo, hlwo⟩
  · rw [decodeKey_adapter hstandard hkey'] at hkey
    cases hkey
    rfl

theorem referenceEngine_agrees :
    decodeB64 "AQID" = .ok [1, 2, 3] ∧
    decodeKey referenceEngine "AAAAAAAAAAAAAAAAAAAAAAAAAAAAAAAAAAAAAAAAAAA=" =
      .ok (Vector.replicate 32 0) := by
  obtain ⟨hbytes, hkeys, -⟩ := decoders_agree referenceEngine referenceEngine_rfc4648
  refine ⟨hbytes "AQID" [1, 2, 3] (by decide +kernel), ?_⟩
  exact (hkeys (Vector.replicate 32 0) _ (by decide +kernel)).2

end RouteGuard.Lwo
