import RouteGuard.Core.ConfRoundTrip

/-! # Socket addresses with a scope

The text of a `std::net::SocketAddr`, with the scope of an IPv6 address,
consists of graphic characters and reads back. -/
set_option autoImplicit false
namespace RouteGuard

namespace ScopedSocketAddr

theorem forall_chars {P : Char → Prop} (hP : AddressChars P)
    (hsigns : ∀ c ∈ ['[', ']', '%'], P c) (endpoint : ScopedSocketAddr) :
    ∀ c ∈ endpoint.toString.toList, P c := by
  by_cases hplain : ∀ bits port scopeId, endpoint = .v6 bits port scopeId → scopeId = 0
  · rw [toString_unscoped endpoint hplain]
    apply forall_endpoint hP
    simpa using ⟨hsigns '[' (by simp), hsigns ']' (by simp)⟩
  · push Not at hplain
    obtain ⟨bits, port, scopeId, rfl, hscope⟩ := hplain
    have hid : ∀ c ∈ (ToString.toString scopeId).toList, P c := by
      have htext : (ToString.toString scopeId).toList = Nat.toDigits 10 scopeId.toNat :=
        Nat.toList_repr
      rw [htext]
      exact forall_decimal hP scopeId.toNat
    have hopen : ∀ c ∈ "[".toList, P c := by simpa using hsigns '[' (by simp)
    have hpercent : ∀ c ∈ "%".toList, P c := by simpa using hsigns '%' (by simp)
    have hclose : ∀ c ∈ "]:".toList, P c := by
      simpa using ⟨hsigns ']' (by simp), hP.colon⟩
    rw [toString, if_neg hscope]
    simp only [String.toList_append, List.forall_mem_append]
    exact ⟨⟨⟨⟨⟨hopen, forall_toString hP _⟩, hpercent⟩, hid⟩, hclose⟩, forall_port hP _⟩

theorem graphic_toString (endpoint : ScopedSocketAddr) : Graphic endpoint.toString.toList :=
  forall_chars graphic_addressChars (by simp; decide) endpoint

theorem readsBack : ReadsBack parse where
  graphic := graphic_toString
  ne_nil endpoint := by
    change endpoint.toString.toList ≠ []
    cases endpoint with
    | v4 bits port => simp [toString]
    | v6 bits port scopeId =>
        rw [toString]
        split <;> simp
  parse_toString := parse_toString

end ScopedSocketAddr

theorem SocketAddr.scopeless_injective : Function.Injective SocketAddr.scopeless := by
  intro first second h
  have htext := congrArg ScopedSocketAddr.toString h
  rw [scopeless_toString, scopeless_toString] at htext
  have hread := congrArg SocketAddr.parse htext
  rw [parse_toString, parse_toString] at hread
  exact Option.some.inj hread

end RouteGuard
