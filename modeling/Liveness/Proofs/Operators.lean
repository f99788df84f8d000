import Liveness.Proofs.Bits
import Liveness.Proofs.Senders

/-!
# Operator addresses

A text is accepted as an operator address exactly if it is written for 20 bytes under the operator
part. It may end in either checksum, so the bytes have two accepted spellings. Both name the same
account, and from the account one comes back to the first of them.
-/

namespace Liveness

open Bech32 Text

variable {a b p : String} {payload : List UInt8} {v : Variant} {ws : List Word}

/-! ## The form of an operator address -/

namespace Text

theorem utf8Len_of_ascii {cs : List Char} (h : ∀ c ∈ cs, c.toNat < 128) :
    String.utf8Len cs = cs.length := by
  induction cs with
  | nil => rfl
  | cons c rest ih =>
    obtain ⟨hc, hrest⟩ := List.forall_mem_cons.mp h
    rw [String.utf8Len_cons, ih hrest, utf8Size_of_ascii hc, List.length_cons]

end Text

namespace Bech32

theorem letter_lower_or_digit : ∀ w : Word,
    (letter w).isLower = true ∨ (letter w).isDigit = true := by decide

/-- A text under a part of lower-case letters and digits has no other characters either. -/
theorem plain_written {hrp : String}
    (h : ∀ c ∈ hrp.toList, c.isLower = true ∨ c.isDigit = true) :
    ∀ c ∈ (written v hrp ws).toList, c.isLower = true ∨ c.isDigit = true := by
  intro c hc
  rw [written, String.toList_ofList, List.mem_append, List.mem_cons, List.mem_map] at hc
  rcases hc with hc | rfl | ⟨w, -, rfl⟩
  · exact h c hc
  · decide
  · exact letter_lower_or_digit w

theorem length_written (v : Variant) (hrp : String) (ws : List Word) :
    (written v hrp ws).toList.length = hrp.toList.length + 1 + (ws.length + 6) := by
  rw [written, String.toList_ofList, List.length_append, List.length_cons, List.length_map,
    List.length_append, length_checksum]
  omega

/-- A text tells its checksum. -/
theorem written_bech32_ne {hrp : String} (hhrp : IsHrp hrp) (hcase : NoUpper hrp) (ws : List Word) :
    written .bech32 hrp ws ≠ written .bech32m hrp ws := by
  intro h
  have hfirst := decode_written hhrp hcase .bech32 ws
  rw [h, decode_written hhrp hcase .bech32m ws] at hfirst
  cases hfirst

end Bech32

/-! ## What is accepted -/

namespace Address

theorem decode_eq_ok_iff {hrp : String} :
    decode a = .ok (hrp, payload) ↔
      ∃ d, Bech32.decode a = .ok d ∧ d.hrp = hrp ∧ d.words = ofBytes payload := by
  rw [decode]
  cases hread : Bech32.decode a with
  | error e => simp [Except.mapError, bind, Except.bind]
  | ok d =>
    cases hbytes : toBytes d.words with
    | error e =>
      have hno : d.words ≠ ofBytes payload := fun h => by
        rw [toBytes_eq_ok_iff.mpr h] at hbytes
        cases hbytes
      simp [Except.mapError, bind, Except.bind, hbytes, hno]
    | ok bytes =>
      have hwords : bytes = payload ↔ d.words = ofBytes payload := by
        rw [← toBytes_eq_ok_iff, hbytes, Except.ok.injEq]
      simp [Except.mapError, bind, Except.bind, hbytes, pure, Except.pure, hwords]

theorem decode_written (hp : IsAccountPrefix p) (v : Variant) (payload : List UInt8) :
    decode (written v (operatorHrp p) (ofBytes payload)) = .ok (operatorHrp p, payload) := by
  obtain ⟨hhrp, hcase⟩ := hp.operatorHrp
  exact decode_eq_ok_iff.mpr ⟨_, Bech32.decode_written hhrp hcase v _, rfl, rfl⟩

/-- The characters of an operator address of 20 bytes. -/
theorem wellFormed_written (hp : IsAccountPrefix p) (v : Variant) (h : payload.length = 20) :
    let address := written v (operatorHrp p) (ofBytes payload)
    (address.utf8ByteSize == (operatorHrp p).utf8ByteSize + 1 + 38 &&
      ((operatorHrp p).toList ++ ['1']).isPrefixOf address.toList &&
      address.toList.all fun c => c.isLower || c.isDigit) = true := by
  intro address
  have hplain := hp.plain_operatorHrp
  have hall : ∀ c ∈ address.toList, c.isLower = true ∨ c.isDigit = true := plain_written hplain
  have hsize : ∀ {s : String}, (∀ c ∈ s.toList, c.isLower = true ∨ c.isDigit = true) →
      s.utf8ByteSize = s.toList.length := by
    intro s hs
    rw [← String.ofList_toList (s := s), String.utf8ByteSize_ofList, String.toList_ofList]
    refine utf8Len_of_ascii fun c hc => ?_
    have := (IsAccountPrefix.bounds (hs c hc)).2
    omega
  have hlength : address.toList.length = (operatorHrp p).toList.length + 1 + 38 := by
    rw [length_written, length_ofBytes, h]
  rw [hsize hall, hsize hplain, hlength]
  simp only [beq_self_eq_true, Bool.true_and, Bool.and_eq_true, List.all_eq_true, Bool.or_eq_true]
  refine ⟨?_, hall⟩
  rw [List.isPrefixOf_iff_prefix]
  refine ⟨(ofBytes payload ++ checksum v (operatorHrp p).toList (ofBytes payload)).map letter, ?_⟩
  simp [address, written]

/-- Accepted is what is written for 20 bytes, with either checksum. -/
theorem isOperator_iff_written (hp : IsAccountPrefix p) :
    isOperator a p = true ↔
      ∃ (v : Variant) (payload : List UInt8), payload.length = 20 ∧
        a = written v (operatorHrp p) (ofBytes payload) := by
  constructor
  · intro h
    simp only [isOperator, Bool.and_eq_true, List.all_eq_true, Bool.or_eq_true] at h
    obtain ⟨⟨-, hall⟩, hread⟩ := h
    have hcase : NoUpper a := fun c hc => (IsAccountPrefix.bounds (hall c hc)).1
    cases hdecode : decode a with
    | error e => simp [hdecode] at hread
    | ok parts =>
      obtain ⟨hrp, payload⟩ := parts
      simp only [hdecode, Bool.and_eq_true, beq_iff_eq] at hread
      obtain ⟨rfl, hlength⟩ := hread
      obtain ⟨d, hd, hhrp, hwords⟩ := decode_eq_ok_iff.mp hdecode
      refine ⟨d.variant, payload, hlength, ?_⟩
      rw [← hhrp, ← hwords]
      exact eq_written_of_decode hd hcase
  · rintro ⟨v, payload, hlength, rfl⟩
    simp only [isOperator, wellFormed_written hp v hlength, decode_written hp]
    simp [hlength]

/-- Accepted are the texts that are written for 20 bytes under the operator part with either
checksum. So the bytes have two spellings. Each of them names the account of the bytes, and the
account leads back to the first spelling. -/
theorem operator_spellings (hp : IsAccountPrefix p) :
    (∀ a, isOperator a p = true ↔
      ∃ (v : Variant) (payload : List UInt8), payload.length = 20 ∧
        encodeAs v (operatorHrp p) (ofBytes payload) = .ok a) ∧
      ∀ payload : List UInt8, payload.length = 20 →
        ∃ plain modified account,
          encode (operatorHrp p) (ofBytes payload) = .ok plain ∧
          encodeAs .bech32m (operatorHrp p) (ofBytes payload) = .ok modified ∧
          encode p (ofBytes payload) = .ok account ∧ plain ≠ modified ∧
          ∀ a, (isOperator a p = true ∧ decode a = .ok (operatorHrp p, payload) ↔
              a = plain ∨ a = modified) ∧
            (a = plain ∨ a = modified →
              selfDelegation a p = .ok account ∧
                reencode account (operatorHrp p) = .ok plain) := by
  obtain ⟨hhrp, hcase⟩ := hp.operatorHrp
  have hback : asciiLower (operatorHrp p) = operatorHrp p := asciiLower_of_noUpper hcase
  have hback' : asciiLower p = p := asciiLower_of_noUpper hp.noUpper
  have hencode : ∀ v ws a, encodeAs v (operatorHrp p) ws = .ok a ↔
      a = written v (operatorHrp p) ws := by
    intro v ws a
    rw [encodeAs_eq_ok_iff, hback, and_iff_right hhrp]
  constructor
  · intro a
    simp only [hencode]
    exact isOperator_iff_written hp
  · intro payload hlength
    refine ⟨_, _, written .bech32 p (ofBytes payload), (hencode ..).mpr rfl, (hencode ..).mpr rfl,
      encodeAs_eq_ok_iff.mpr ⟨hp.isHrp, by rw [hback']⟩, written_bech32_ne hhrp hcase _,
      fun a => ⟨⟨?_, ?_⟩, ?_⟩⟩
    · rintro ⟨haccept, hdecode⟩
      obtain ⟨v, payload', -, rfl⟩ := (isOperator_iff_written hp).mp haccept
      rw [decode_written hp] at hdecode
      cases hdecode
      cases v with
      | bech32 => exact Or.inl rfl
      | bech32m => exact Or.inr rfl
    · have haccept : ∀ v, isOperator (written v (operatorHrp p) (ofBytes payload)) p = true ∧
          decode (written v (operatorHrp p) (ofBytes payload)) = .ok (operatorHrp p, payload) :=
        fun v => ⟨(isOperator_iff_written hp).mpr ⟨v, payload, hlength, rfl⟩, decode_written hp v _⟩
      rintro (rfl | rfl)
      · exact haccept .bech32
      · exact haccept .bech32m
    · have hself : ∀ v, selfDelegation (written v (operatorHrp p) (ofBytes payload)) p =
          .ok (written .bech32 p (ofBytes payload)) := by
        intro v
        rw [selfDelegation, reencode_written hhrp hcase _ _ hp.isHrp, hback']
      have hreturn : reencode (written .bech32 p (ofBytes payload)) (operatorHrp p) =
          .ok (written .bech32 (operatorHrp p) (ofBytes payload)) := by
        rw [reencode_written hp.isHrp hp.noUpper _ _ hhrp, hback]
      rintro (rfl | rfl)
      · exact ⟨hself .bech32, hreturn⟩
      · exact ⟨hself .bech32m, hreturn⟩

/-- Twenty bytes with their two spellings. -/
theorem operator_spellings_of_hundred :
    let payload : List UInt8 := (List.range 20).map fun i => UInt8.ofNat (100 + i)
    let plain := "cosmosvaloper1v3jkvemgd94xkmrddehhqutjwd682anhddhc5r"
    let modified := "cosmosvaloper1v3jkvemgd94xkmrddehhqutjwd682anhc3853p"
    let account := "cosmos1v3jkvemgd94xkmrddehhqutjwd682anhgerdcs"
    IsAccountPrefix "cosmos" ∧ payload.length = 20 ∧
      encode "cosmosvaloper" (ofBytes payload) = .ok plain ∧
      encodeAs .bech32m "cosmosvaloper" (ofBytes payload) = .ok modified ∧
      isOperator plain "cosmos" = true ∧ isOperator modified "cosmos" = true ∧
      selfDelegation modified "cosmos" = .ok account ∧
      reencode account "cosmosvaloper" = .ok plain := by
  intro payload plain modified account
  have hcosmos : IsAccountPrefix "cosmos" :=
    ⟨by decide, by decide, List.all_iff_forall_prop.mp (by decide)⟩
  have hplain : encode (operatorHrp "cosmos") (ofBytes payload) = .ok plain := by decide +kernel
  have hmodified : encodeAs .bech32m (operatorHrp "cosmos") (ofBytes payload) = .ok modified := by
    decide +kernel
  have haccount : encode "cosmos" (ofBytes payload) = .ok account := by decide +kernel
  obtain ⟨-, hspellings⟩ := operator_spellings hcosmos
  obtain ⟨plain', modified', account', h₁, h₂, h₃, -, hall⟩ := hspellings payload (by decide)
  rw [hplain] at h₁
  rw [hmodified] at h₂
  rw [haccount] at h₃
  cases h₁
  cases h₂
  cases h₃
  obtain ⟨hfirst, -⟩ := hall plain
  obtain ⟨hsecond, hnames⟩ := hall modified
  obtain ⟨hself, hreturn⟩ := hnames (Or.inr rfl)
  exact ⟨hcosmos, by decide, hplain, hmodified, (hfirst.mpr (Or.inl rfl)).1,
    (hsecond.mpr (Or.inr rfl)).1, hself, hreturn⟩

/-- The second spelling is accepted, and the first form is never written so. -/
theorem isOperator_modified :
    let modified := "cosmosvaloper1v3jkvemgd94xkmrddehhqutjwd682anhc3853p"
    isOperator modified "cosmos" = true ∧
      (∀ payload, encode (operatorHrp "cosmos") (ofBytes payload) ≠ .ok modified) ∧
      (selfDelegation modified "cosmos").bind (reencode · (operatorHrp "cosmos")) ≠
        .ok modified := by
  intro modified
  refine ⟨by decide +kernel, fun payload h => ?_, by decide +kernel⟩
  have hread : (Bech32.decode modified).map (·.variant) = .ok .bech32m := by decide +kernel
  obtain ⟨hhrp, hwritten⟩ := encodeAs_eq_ok_iff.mp h
  rw [hwritten, Bech32.decode_written hhrp.asciiLower (noUpper_asciiLower _)] at hread
  cases hread

end Address

end Liveness
