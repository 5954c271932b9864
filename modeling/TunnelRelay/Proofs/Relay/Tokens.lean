import TunnelRelay.Proofs.Relay.Gate

/-!
Tokens that are drawn at random.

Different bytes make different tokens, and every character of a token can stand in a header. So a
relay that draws its tokens tells each of them to the browser that connects, and closes no tunnel
because of its token; and a token opens no tunnel but the one for which the same bytes were drawn.
-/

namespace TunnelRelay

open Http LongPoll

/-! ### Base 64 -/

theorem base64Digit_mem (value : Nat) : base64Digit value ∈ base64Digits := by
  have small : value % 64 < base64Digits.length := Nat.mod_lt value (by decide)
  rw [base64Digit, List.getElem?_eq_getElem small]
  exact List.getElem_mem small

theorem base64Digit_ne_padding (value : Nat) : base64Digit value ≠ '=' := by
  intro same
  have member := base64Digit_mem value
  rw [same] at member
  exact absurd member (by decide)

theorem base64Digit_inj {first second : Nat} :
    base64Digit first = base64Digit second ↔ first % 64 = second % 64 := by
  have small : ∀ value, value % 64 < base64Digits.length :=
    fun value => Nat.mod_lt value (by decide)
  have distinct : base64Digits.Nodup := by decide
  rw [base64Digit, base64Digit, List.getElem?_eq_getElem (small first),
    List.getElem?_eq_getElem (small second)]
  exact distinct.getElem_inj_iff

theorem base64_length (bytes : Bytes) :
    (base64 bytes).length = 4 * ((bytes.length + 2) / 3) := by
  fun_induction base64 bytes with
  | case1 => rfl
  | case2 | case3 => simp
  | case4 first second third rest bits ih =>
      simp only [List.length_cons, ih]
      omega

theorem mem_base64 {bytes : Bytes} {char : Char} (member : char ∈ base64 bytes) :
    char ∈ base64Digits ∨ char = '=' := by
  fun_induction base64 bytes with
  | case1 => cases member
  | case2 | case3 =>
      simp only [List.mem_cons, List.not_mem_nil, or_false] at member
      rcases member with rfl | rfl | rfl | rfl
      all_goals first | exact Or.inl (base64Digit_mem _) | exact Or.inr rfl
  | case4 first second third rest bits ih =>
      simp only [List.mem_cons] at member
      rcases member with rfl | rfl | rfl | rfl | member
      · exact Or.inl (base64Digit_mem _)
      · exact Or.inl (base64Digit_mem _)
      · exact Or.inl (base64Digit_mem _)
      · exact Or.inl (base64Digit_mem _)
      · exact ih member

/-- The length of the padding tells how many bytes are at the end. -/
theorem base64_injective : Function.Injective base64 := by
  intro bytes others same
  have small : ∀ byte : UInt8, byte.toNat < 256 := UInt8.toNat_lt
  fun_induction base64 bytes generalizing others with
  | case1 =>
      rcases others with _ | ⟨a, _ | ⟨b, _ | ⟨c, rest⟩⟩⟩
      · rfl
      all_goals cases same
  | case2 first =>
      rcases others with _ | ⟨a, _ | ⟨b, _ | ⟨c, rest⟩⟩⟩
      · cases same
      · simp only [base64, List.cons.injEq, base64Digit_inj] at same
        have := small first
        have := small a
        rw [UInt8.toNat_inj.mp (show first.toNat = a.toNat by omega)]
      all_goals
        simp only [base64, List.cons.injEq] at same
        exact absurd same.2.2.1.symm (base64Digit_ne_padding _)
  | case3 first second =>
      rcases others with _ | ⟨a, _ | ⟨b, _ | ⟨c, rest⟩⟩⟩
      · cases same
      · simp only [base64, List.cons.injEq] at same
        exact absurd same.2.2.1 (base64Digit_ne_padding _)
      · simp only [base64, List.cons.injEq, base64Digit_inj] at same
        have := small first
        have := small second
        have := small a
        have := small b
        rw [UInt8.toNat_inj.mp (show first.toNat = a.toNat by omega),
          UInt8.toNat_inj.mp (show second.toNat = b.toNat by omega)]
      · simp only [base64, List.cons.injEq] at same
        exact absurd same.2.2.2.1.symm (base64Digit_ne_padding _)
  | case4 first second third rest bits =>
      rename_i ih
      rcases others with _ | ⟨a, _ | ⟨b, _ | ⟨c, others⟩⟩⟩
      · cases same
      · simp only [base64, List.cons.injEq] at same
        exact absurd same.2.2.1 (base64Digit_ne_padding _)
      · simp only [base64, List.cons.injEq] at same
        exact absurd same.2.2.2.1 (base64Digit_ne_padding _)
      · simp only [base64, List.cons.injEq, base64Digit_inj] at same
        have := small first
        have := small second
        have := small third
        have := small a
        have := small b
        have := small c
        rw [ih same.2.2.2.2,
          UInt8.toNat_inj.mp (show first.toNat = a.toNat by omega),
          UInt8.toNat_inj.mp (show second.toNat = b.toNat by omega),
          UInt8.toNat_inj.mp (show third.toNat = c.toNat by omega)]

/-! ### Tokens -/

theorem tokenOf_injective : Function.Injective tokenOf := by
  intro random other same
  apply base64_injective
  exact String.ofList_injective same

theorem tokenOf_length {random : Bytes} (drawn : random.length = tokenLength) :
    (tokenOf random).length = 44 := by
  rw [tokenOf, String.length_ofList, base64_length, drawn]
  rfl

theorem isValue_tokenOf (random : Bytes) :
    Headers.isValue (Bytes.ofText (tokenOf random)) = true := by
  have visible : ('=' :: base64Digits).all (fun char =>
      (String.utf8EncodeChar char).all (fun byte =>
        byte == 0x09 || 0x20 ≤ byte && byte != 0x7f)) = true := by
    decide +kernel
  rw [List.all_eq_true] at visible
  rw [Headers.isValue, Bytes.ofText_eq_flatMap, tokenOf, String.toList_ofList,
    List.all_flatMap, List.all_eq_true]
  intro char member
  rcases mem_base64 member with digit | rfl
  · exact visible char (List.mem_cons_of_mem _ digit)
  · exact visible '=' List.mem_cons_self

theorem RegisteredTunnel.accepts_tokenOf {σ : Type}
    {registered : RegisteredTunnel σ} {random : Bytes}
    (drawn : registered.token = tokenOf random) (other : Bytes) :
    registered.accepts (tokenOf other) = true ↔ other = random := by
  rw [accepts, tokenMatches_iff, drawn]
  exact tokenOf_injective.eq_iff

/-! ### Relays that draw their tokens -/

variable {σ : Type}

/-- The token of each tunnel is made of bytes that were drawn for it. -/
def Environment.Draws (environment : Environment σ) (random : Nat → Bytes) :
    Prop :=
  ∀ number, (random number).length = tokenLength ∧
    environment.token number = tokenOf (random number)

variable [Connection σ]

theorem LongPoll.Exchange.enter_tokenOf (exchange : Exchange)
    (tunnel : Tunnel σ) (random : Bytes) (registry : Registry σ) :
    exchange.enter tunnel (tokenOf random) registry =
      (exchange.connected tunnel.uuid (tokenOf random),
        registry.put tunnel (tokenOf random)) := by
  rw [enter, if_pos (isValue_tokenOf random)]

/-- Whoever connects to guacd is told the UUID of the tunnel and its token, and
the tunnel stays. -/
theorem Relay.connectExchange_tells {environment : Environment σ}
    {random : Nat → Bytes} (draws : environment.Draws random)
    (relay : Relay σ) {number : Nat} (exchange : Exchange)
    {parameters : List (String × String)} {tunnel : Tunnel σ}
    (connected : environment.connect relay.requests.length ⟨parameters⟩ =
      .ok tunnel) :
    let token := tokenOf (random relay.registry.tunnels.length)
    relay.connectExchange environment number exchange parameters =
      { relay with
        registry := (relay.registry.count (·.tunnelOpened)).put tunnel token
        requests := relay.requests ++ [⟨parameters⟩]
        exchanges :=
          relay.exchanges.set number (exchange.connected tunnel.uuid token) } := by
  intro token
  have own : environment.token relay.registry.tunnels.length = token :=
    (draws relay.registry.tunnels.length).2
  simp only [connectExchange, Relay.connect, connected, own]
  rw [exchange.enter_tokenOf]
  rfl

end TunnelRelay
