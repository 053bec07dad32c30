/-
  The end-to-end result: the additive shares of the local demo add up to the
  product of the multiplicative ones, and when those of a session over the network
  do.
-/
import CotMta.Session.Network

namespace CotMta.Session

open Trezor Secp256k1 Client Client.CryptoOps Server Relation Net

variable {ops : GroupOps} {sha256 : List UInt8 → Bytes 32} {proto : ProtoTypes}
  {mem : Memory} {c : AliceChoices} {y drawn : Scalar} {b : ℕ → Scalar}

/-! ## The shares -/

/-- Bob's additive share in the local demo, where the client computes it. -/
def localShare (c : AliceChoices) (y : Scalar) : Scalar :=
  Bytes.ofNat 32 (weightedSum ((List.range 256).map (c.selected y)) % n)

theorem client_localShare :
    MTAProtocol.computeBobShare ((List.range 256).map fun i => (c.selected y i).toList) =
      (localShare c y).toList := by
  have h := clientBobShare_eq ((List.range 256).map (c.selected y))
  rw [List.map_map] at h
  exact h

/-- Canonical additive shares of the product. -/
def Multiplies (x y : Scalar) (u v : Uint8Array) : Prop :=
  beNat u < n ∧ beNat v < n ∧ (beNat u + beNat v) % n = x.nat * y.nat % n

theorem nat_aliceShare : (aliceShare c).nat = (n - weightedSum ((List.range 256).map c.ui) % n) % n :=
  Bytes.nat_ofNat ((Nat.mod_lt _ n_pos).trans (by norm_num [n]))

theorem nat_localShare :
    (localShare c y).nat = weightedSum ((List.range 256).map (c.selected y)) % n :=
  Bytes.nat_ofNat ((Nat.mod_lt _ n_pos).trans (by norm_num [n]))

theorem shares_lt (c : AliceChoices) (y : Scalar) :
    (aliceShare c).nat < n ∧ (localShare c y).nat < n := by
  rw [nat_aliceShare, nat_localShare]
  exact ⟨Nat.mod_lt _ n_pos, Nat.mod_lt _ n_pos⟩

/-- **The masks cancel.** -/
theorem shares_modEq (c : AliceChoices) (y : Scalar) :
    (aliceShare c).nat + (localShare c y).nat ≡ c.x.nat * y.nat [MOD n] := by
  have hsel := weightedSum_selected c y
  rw [nat_aliceShare, nat_localShare]
  generalize weightedSum ((List.range 256).map c.ui) = u at hsel ⊢
  generalize weightedSum ((List.range 256).map (c.selected y)) = v at hsel ⊢
  have hr := Nat.mod_lt u n_pos
  calc (n - u % n) % n + v % n
      ≡ n - u % n + v [MOD n] := (Nat.mod_modEq _ _).add (Nat.mod_modEq _ _)
    _ ≡ n - u % n + (u % n + c.x.nat * y.nat) [MOD n] :=
        (hsel.trans ((Nat.mod_modEq u n).symm.add_right _)).add_left _
    _ = n + c.x.nat * y.nat := by omega
    _ ≡ c.x.nat * y.nat [MOD n] := Nat.add_modEq_left

/-! ## The local demo -/

theorem localRound_eq (sha256 : List UInt8 → Bytes 32) (drawn : Scalar) {i : ℕ} (hi : i < 256)
    (ha : ValidScalar (c.a i)) (hb : ValidScalar (b i))
    (hdeg : ¬Degenerate (Server.getBit y i) (c.a i) (b i)) :
    localRound sha256 (c.draws drawn b) c.x.toList y.toList i =
      .ok ((c.ui i).toList, (c.selected y i).toList) := by
  obtain ⟨A, B, shared, e0, e1, hA, hB, hshared, hresponse, hmessage⟩ :=
    response_eq ha hb sha256 hdeg (c.ui i) (c.m1 i) (c.ui i)
  have hnew : AliceOT.new (c.ui i).toList (c.m1 i).toList (c.ui i).toList (c.a i).toList =
      .ok (AliceOT.ofBytes (c.ui i) (c.m1 i) (c.ui i) (c.a i) A) := AliceOT.new_eq _ _ _ ha hA
  obtain ⟨bG, hbG⟩ := hb.exists_compressed G_isAt.ne_zero
  have hmulG := scalarMultiplyG_eq hb
  rw [encoding_some hbG] at hmulG
  have hmul := scalarMultiplyPoint_eq hb hA
  rw [encoding_some hshared] at hmul
  have hselected : xorEncrypt (if Server.getBit y i = 0 then e0.toList else e1.toList)
      (deriveKey sha256 (shared.toList.drop 1)) = (c.selected y i).toList := by
    rw [← apply_ite Bytes.toList, deriveKey, xorEncrypt_eq]
    exact congrArg Bytes.toList hmessage
  have hA' : ((AliceOT.ofBytes (c.ui i) (c.m1 i) (c.ui i) (c.a i) A).generateInit i).pointA =
      A.toList := rfl
  simp only [localRound, AliceChoices.draws, AliceChoices.modAdd_eq, hnew, bind, Except.bind, hA',
    client_getBit hi, hmulG, pure, Except.pure]
  by_cases hbit : Server.getBit y i = 0
  · rw [answer, if_pos hbit, add_zero, hbG] at hB
    obtain rfl := Option.some.inj hB
    rw [if_pos hbit] at hselected
    simp only [if_pos hbit, hresponse, hmul, getXCoordinate_eq hshared, hselected]
    rfl
  · have hadd := pointAdd_eq hbG hA
    rw [answer, if_neg hbit] at hB
    rw [encoding_some hB] at hadd
    rw [if_neg hbit] at hselected
    simp only [if_neg hbit, hadd, hresponse, hmul, getXCoordinate_eq hshared, hselected]
    rfl

theorem localRounds_eq (sha256 : List UInt8 → Bytes 32) (drawn : Scalar) (hc : c.Valid)
    (hb : ∀ i < 256, ValidScalar (b i)) (hdeg : NonDegenerate c y b) :
    ∀ (count i : ℕ) (ui mc : List Uint8Array), i + count ≤ 256 →
      localRounds sha256 (c.draws drawn b) c.x.toList y.toList count i ui mc =
        .ok (ui ++ (List.range' i count).map fun i => (c.ui i).toList,
          mc ++ (List.range' i count).map fun i => (c.selected y i).toList)
  | 0, i, ui, mc, _ => by
    rw [List.range'_zero, List.map_nil, List.append_nil, List.map_nil, List.append_nil]
    rfl
  | count + 1, i, ui, mc, hi => by
    have hi' : i < 256 := by omega
    have hround := localRound_eq sha256 drawn hi' (hc.a i hi') (hb i hi') (hdeg i hi')
    have hrest := localRounds_eq sha256 drawn hc hb hdeg count (i + 1) (ui ++ [(c.ui i).toList])
      (mc ++ [(c.selected y i).toList]) (by omega)
    rw [List.append_assoc, List.append_assoc] at hrest
    simp only [localRounds, hround, bind, Except.bind]
    exact hrest

/-- The client's check passes on shares that add up. -/
theorem verify_shares :
    MTAProtocol.verify c.x.toList y.toList (aliceShare c).toList (localShare c y).toList = true := by
  rw [clientVerify_eq]
  exact (shares_modEq c y).symm

theorem runLocalDemo_eq (sha256 : List UInt8 → Bytes 32) (hc : c.Valid)
    (hb : ∀ i < 256, ValidScalar (b i)) (hdeg : NonDegenerate c y b) {given : Option Scalar}
    (hy : given.getD drawn = y) (debugReveal : Bool) :
    runLocalDemo sha256 (c.draws drawn b)
      ⟨debugReveal, c.given.map Bytes.toList, given.map Bytes.toList⟩ = .ok {
        x := c.x.toList
        y := some y.toList
        u := (aliceShare c).toList
        v := (localShare c y).toList
        verification := "ok" } := by
  have hrounds := localRounds_eq sha256 drawn hc hb hdeg 256 0 [] [] le_rfl
  have hy' : (given.map Bytes.toList).getD drawn.toList = y.toList := by
    rw [← hy]
    cases given <;> rfl
  have hx : (c.given.map Bytes.toList).getD (c.draws drawn b).x = c.x.toList := c.x_eq
  rw [List.nil_append, List.nil_append, ← List.range_eq_range'] at hrounds
  simp only [runLocalDemo, hx, show (c.draws drawn b).y = drawn.toList from rfl, hy', hrounds, bind,
    Except.bind, client_aliceShare, client_localShare, verify_shares, if_true]
  rfl

theorem multiplies_local : Multiplies c.x y (aliceShare c).toList (localShare c y).toList := by
  obtain ⟨hu, hv⟩ := shares_lt c y
  exact ⟨hu, hv, shares_modEq c y⟩

/-! ## The network session -/

/-- The condition on the words where the server's `term` lies. -/
def WordsMultiply (mem : Memory) (c : AliceChoices) (y : Scalar) : Prop :=
  termWeights 256 * wordsVal mem.term ≡
    c.x.nat * y.nat + weightedSum ((List.range 256).map c.ui) [MOD n]

instance {mem : Memory} {c : AliceChoices} {y : Scalar} : Decidable (WordsMultiply mem c y) :=
  inferInstanceAs (Decidable (_ ≡ _ [MOD n]))

theorem multiplies_network : Multiplies c.x y (aliceShare c).toList (serverShare mem.term).toList ↔
    WordsMultiply mem c y := by
  obtain ⟨hu, -⟩ := shares_lt c y
  have hv : (serverShare mem.term).nat < n := by
    rw [nat_serverShare]
    exact Nat.mod_lt _ n_pos
  have hsum : (aliceShare c).nat + weightedSum ((List.range 256).map c.ui) ≡ 0 [MOD n] := by
    rw [nat_aliceShare]
    generalize weightedSum ((List.range 256).map c.ui) = u
    have hcancel : n - u % n + u % n = n := Nat.sub_add_cancel (Nat.mod_lt u n_pos).le
    have hadd : (n - u % n) % n + u ≡ n - u % n + u % n [MOD n] :=
      (Nat.mod_modEq _ _).add (Nat.mod_modEq _ _).symm
    rw [hcancel] at hadd
    exact hadd.trans ((Nat.modEq_zero_iff_dvd).2 (dvd_refl n))
  have hshare : (serverShare mem.term).nat ≡ termWeights 256 * wordsVal mem.term [MOD n] := by
    rw [nat_serverShare]
    exact Nat.mod_modEq _ _
  rw [WordsMultiply]
  generalize weightedSum ((List.range 256).map c.ui) = u at hsum ⊢
  constructor
  · rintro ⟨-, -, hprod⟩
    have hprod : (aliceShare c).nat + (serverShare mem.term).nat ≡ c.x.nat * y.nat [MOD n] := hprod
    have hzero := hsum.symm.add_right (serverShare mem.term).nat
    rw [zero_add, add_right_comm] at hzero
    exact hshare.symm.trans (hzero.trans (hprod.add_right u))
  · intro hwords
    refine ⟨hu, hv, ?_⟩
    have hzero := hsum.add_left (c.x.nat * y.nat)
    rw [add_zero, add_left_comm] at hzero
    exact ((hshare.trans hwords).add_left (aliceShare c).nat).trans hzero

/-- Every run over the network can be continued to its end, where both sides have the
    server's additive share, and it and the client's are shares of the product. -/
def NetworkMultiplies (ops : GroupOps) (sha256 : List UInt8 → Bytes 32) (proto : ProtoTypes)
    (mem : Memory) (c : AliceChoices) (y : Scalar) (b : ℕ → Scalar) (debugReveal : Bool) : Prop :=
  ∀ s, Runs (network ops sha256 proto mem c y b debugReveal) s →
    ∃ t output result, Runs s t ∧ t.Finished output result ∧
      output.u = MTAProtocol.computeAliceShare ((List.range 256).map fun i => (c.ui i).toList) ∧
      result.v.toList = output.v ∧ Multiplies c.x y output.u output.v

/-- The local demo ends with `ok` and with shares of the product. -/
def LocalMultiplies (sha256 : List UInt8 → Bytes 32) (c : AliceChoices) (y : Scalar)
    (b : ℕ → Scalar) : Prop :=
  ∀ drawn given debugReveal, Option.getD given drawn = y →
    ∃ output, runLocalDemo sha256 (c.draws drawn b)
      ⟨debugReveal, c.given.map Bytes.toList, given.map Bytes.toList⟩ = .ok output ∧
      output.u = MTAProtocol.computeAliceShare ((List.range 256).map fun i => (c.ui i).toList) ∧
      output.v = MTAProtocol.computeBobShare
        ((List.range 256).map fun i => (c.selected y i).toList) ∧
      Multiplies c.x y output.u output.v ∧ output.verification = "ok"

/-- The network session multiplies exactly when its check, if there is one, returns
    and the words in memory give the right share. -/
theorem networkMultiplies_iff (sha256 : List UInt8 → Bytes 32) (mem : Memory) (hops : ops.Lawful)
    (hproto : proto.Lawful) (hc : c.Valid) (hb : ∀ i < 256, ValidScalar (b i))
    (hdeg : NonDegenerate c y b) (debugReveal : Bool) :
    NetworkMultiplies ops sha256 proto mem c y b debugReveal ↔
      Returns mem y debugReveal ∧ WordsMultiply mem c y := by
  constructor
  · intro h
    have hcheck : Returns mem y debugReveal := by
      rintro rfl
      by_contra hcheck
      obtain ⟨got, next, sent, answered, hrun⟩ :=
        network_aborts hops hproto sha256 mem hc hb hdeg hcheck
      obtain ⟨t, output, result, hst, hend, -⟩ := h _ hrun
      have hdone := hend.2.1
      rw [(Runs.throw hst).2 _ rfl] at hdone
      cases hdone
    refine ⟨hcheck, ?_⟩
    obtain ⟨s, hrun, hend⟩ := network_finishes hops hproto sha256 mem hc hb hdeg debugReveal hcheck
    obtain ⟨t, output, result, hst, hend', -, -, hprod⟩ := h s hrun
    obtain rfl := (reflTransGen_iff_eq hend.stuck).1 hst
    obtain rfl : clientOutput mem c y debugReveal = output :=
      Proc.done.inj (hend.1.symm.trans hend'.1)
    exact multiplies_network.1 hprod
  · rintro ⟨hcheck, hwords⟩ s hs
    obtain ⟨t, hrun, hend⟩ := network_finishes hops hproto sha256 mem hc hb hdeg debugReveal hcheck
    exact ⟨t, _, _, runs_to_end hrun hend.stuck hs, hend, client_aliceShare.symm, rfl,
      multiplies_network.2 hwords⟩

/-! ## Both sessions -/

/-- **When the session multiplies.**  With no degenerate round the local demo always
    does; over the network it depends on what lies where the server's numbers are not
    set. -/
theorem multiplicative_to_additive_iff (sha256 : List UInt8 → Bytes 32) (mem : Memory)
    (c : AliceChoices) (y : Scalar) (b : ℕ → Scalar) (hops : ops.Lawful) (hproto : proto.Lawful)
    (hc : c.Valid) (hb : ∀ i < 256, ValidScalar (b i)) (hdeg : NonDegenerate c y b)
    (debugReveal : Bool) :
    NetworkMultiplies ops sha256 proto mem c y b debugReveal ∧ LocalMultiplies sha256 c y b ↔
      Returns mem y debugReveal ∧ WordsMultiply mem c y := by
  have hlocal : LocalMultiplies sha256 c y b := fun drawn given debugReveal hgiven =>
    ⟨_, runLocalDemo_eq sha256 hc hb hdeg hgiven debugReveal, client_aliceShare.symm,
      client_localShare.symm, multiplies_local, rfl⟩
  rw [and_iff_left hlocal]
  exact networkMultiplies_iff sha256 mem hops hproto hc hb hdeg debugReveal

/-- Alice's ones with one mask changed, so that the shares of zeros in memory are
    those of the product of three and five. -/
def luckyChoices : AliceChoices :=
  { smallChoices with
    ui := fun i => if i = 0 then .ofNat 32 (2 * n - 13 - 2 ^ 256) else .ofNat 32 1 }

theorem luckyChoices_valid : luckyChoices.Valid := by
  have h : ValidScalar (.ofNat 32 1) := by decide
  refine ⟨by decide, fun i _ => ?_, fun _ _ => h⟩
  change ValidScalar (if i = 0 then _ else _)
  split
  · decide +kernel
  · exact h

/-- The shares `3` and `5`, with zeros in memory and a debug session. -/
theorem session_three_five :
    NetworkMultiplies affineOps (fun _ => .ofNat 32 7) wireTypes .zero luckyChoices (.ofNat 32 5)
      (fun _ => .ofNat 32 2) true ∧
    LocalMultiplies (fun _ => .ofNat 32 7) luckyChoices (.ofNat 32 5) (fun _ => .ofNat 32 2) := by
  have hb : ValidScalar (.ofNat 32 2) := by decide
  exact (multiplicative_to_additive_iff _ .zero luckyChoices _ _ affineOps_lawful wireTypes_lawful
    luckyChoices_valid (fun _ _ => hb) (smallChoices_nonDegenerate _) true).2
      ⟨fun _ => by decide +kernel, by decide +kernel⟩

/-- Zeros in memory, and ones for all of Alice's masks. -/
theorem session_three_five_fails :
    ¬∀ (mem : Memory) (c : AliceChoices) (y : Scalar) (b : ℕ → Scalar) (debugReveal : Bool),
      c.Valid → ValidScalar y → (∀ i < 256, ValidScalar (b i)) → NonDegenerate c y b →
      NetworkMultiplies affineOps (fun _ => .ofNat 32 7) wireTypes mem c y b debugReveal ∧
        LocalMultiplies (fun _ => .ofNat 32 7) c y b := by
  intro h
  have hb : ValidScalar (.ofNat 32 2) := by decide
  have hfive : ValidScalar (.ofNat 32 5) := by decide
  obtain ⟨hnetwork, -⟩ := h .zero smallChoices (.ofNat 32 5) (fun _ => .ofNat 32 2) false
    smallChoices_valid hfive (fun _ _ => hb) (smallChoices_nonDegenerate _)
  obtain ⟨-, hwords⟩ := (networkMultiplies_iff _ _ affineOps_lawful wireTypes_lawful
    smallChoices_valid (fun _ _ => hb) (smallChoices_nonDegenerate _) false).1 hnetwork
  exact absurd hwords (by decide +kernel)

end CotMta.Session
