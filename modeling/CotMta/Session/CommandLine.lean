/-
  The whole program, from the command line of the client on.

  `Ends` says what an accepted command line leads to: shares that add up to the
  product in the local demo, the client's and the server's share in every run over
  the network, or the refusal of `--y` in network mode.  The server computes on
  machine words.
-/
import CotMta.Client.ArgsSpec
import CotMta.Session.Wire

namespace CotMta.Session

open Trezor Ecdsa Secp256k1 Client JsString Client.CryptoOps Server Bignum256

/-- A scalar that an option gives or that is drawn. -/
def Given (option : Option Uint8Array) (drawn x : Scalar) : Prop :=
  option = some x.toList ∨ option = none ∧ x = drawn

/-- What both sides choose at random. -/
structure Drawn (c : AliceChoices) (y : Scalar) (b : ℕ → Scalar) : Prop where
  x : ValidScalar c.drawn
  y : ValidScalar y
  ui : ∀ i < 256, ValidScalar (c.ui i)
  a : ∀ i < 256, ValidScalar (c.a i)
  /-- no round is degenerate for either bit -/
  apart : ∀ i < 256, c.a i ≠ b i ∧ (c.a i).nat + (b i).nat ≠ n
  b : ∀ i < 256, ValidScalar (b i)

/-- The ends of an accepted command line, on the masks `ui` and the memory of the
    server. -/
inductive Ends (connect : Client.Session DemoOutput →
      Wire Frame Message UInt8 Reader Socket DemoOutput ServerOutput)
    (most : ℕ → ℕ) (mem : Memory) (ui : List Scalar) (o : Options) (x y : Scalar) : Main → Prop
  | localDemo {y' : Scalar} {output : DemoOutput} :
    o.isLocal = true → Given o.y y y' → output.x = x.toList → output.y = some y'.toList →
    Multiplies x y' output.u output.v → output.verification = "ok" →
    Ends connect most mem ui o x y (.localDemo (.ok output))
  | refused {host : JsString} :
    o.isLocal = false → o.host = some host → o.y.isSome →
    Ends connect most mem ui o x y (.networkDemo host o.port
      (.throw "network mode does not accept --y; Bob generates y on the server side"))
  | networkDemo {host : JsString} {session : Client.Session DemoOutput} :
    o.isLocal = false → o.host = some host → o.y = none →
    -- the check of a debug session may abort
    (Returns mem y o.debugReveal →
      ∀ w, WireRuns most (connect session) w → ∃ w' output result, WireRuns most w w' ∧
        w'.Finished output result ∧ w.OnCourse output result ∧ output.x = x.toList ∧
        output.u = MTAProtocol.computeAliceShare (ui.map Bytes.toList) ∧
        result.v = serverShare mem.term ∧ output.v = result.v.toList ∧
        (Multiplies x y output.u output.v ↔
          termWeights 256 * wordsVal mem.term ≡ x.nat * y.nat + weightedSum ui [MOD n]) ∧
        (o.debugReveal = false → output.y = none) ∧
        (o.debugReveal = true → output.y = some y.toList ∧
          (output.verification = "ok" ↔ CheckPasses mem.bn_xy mem.bn_uv y result.v))) →
    Ends connect most mem ui o x y (.networkDemo host o.port session)

variable {toLowerCase : JsString → JsString} {proto : ProtoTypes} {c : AliceChoices} {y : Scalar}
  {b : ℕ → Scalar} {mem : Memory}

/-- What a debug session shows of the check. -/
theorem verification_ok : (clientOutput mem c y true).verification = "ok" ↔
    CheckPasses mem.bn_xy mem.bn_uv y (serverShare mem.term) := by
  have hok : (clientOutput mem c y true).verification = "ok" ↔ verified mem y = true := by
    rw [clientOutput, if_pos rfl]
    cases verified mem y <;> simp
  rw [hok, verified, decide_eq_true_iff]

theorem Drawn.nonDegenerate (h : Drawn c y b) (given : Option Scalar) (y' : Scalar) :
    NonDegenerate { c with given := given } y' b := by
  rintro i hi (⟨-, hab⟩ | ⟨-, hab⟩)
  · exact (h.apart i hi).1 hab
  · exact (h.apart i hi).2 hab

theorem Drawn.valid (h : Drawn c y b) {given : Option Scalar} (hgiven : ∀ s ∈ given, ValidScalar s) :
    ({ c with given := given } : AliceChoices).Valid where
  x := by
    cases given with
    | none => exact h.x
    | some s => exact hgiven s rfl
  ui := h.ui
  a := h.a

theorem given_getD {option : Option Uint8Array} {given : Option Scalar} {drawn : Scalar}
    (h : option = given.map Bytes.toList) : Given option drawn (given.getD drawn) := by
  subst h
  cases given with
  | none => exact .inr ⟨rfl, rfl⟩
  | some s => exact .inl rfl

/-- **The whole program.**  Whatever command line is accepted, the local demo ends with
    `ok` and with shares of the product of `x`, given or drawn, and `y`; a session over
    the network can always be finished, whichever bytes have come and whatever was read
    of them, if its check returns, and multiplies if the server's memory does. -/
theorem main_ends (hlower : ∀ s, Lowers s (toLowerCase s)) (hproto : proto.Lawful)
    (draws : Bignum256 → CurvePoint → List Bignum256)
    (hdraws : ∀ k p, (generateKRandom prime (draws k p)).isSome) (mem : Memory) (most : ℕ → ℕ)
    (hmost : ∀ k, 0 < most k) (h : Drawn c y b) {argv : List JsString} {o : Options}
    (hargs : parseArgs toLowerCase argv = .options o) :
    ∃ x, ValidScalar x ∧ Given o.x c.drawn x ∧
      Ends (fun session => connected session (machineOps machine draws) Sha2.sha256Digest mem y b)
        most mem ((List.range 256).map c.ui) o x y (main toLowerCase Sha256.sha256 (c.draws y b) proto argv) := by
  obtain ⟨⟨given, hx, hgiven⟩, ⟨givenY, hy, hgivenY⟩, -, hhost⟩ := ok_of_parseArgs hlower hargs
  have hc := h.valid hgiven
  refine ⟨({ c with given := given } : AliceChoices).x, hc.x, given_getD hx, ?_⟩
  simp only [main, hargs]
  cases hlocal : o.isLocal with
  | true =>
    have ho : o.toCliOptions = ⟨o.debugReveal, given.map Bytes.toList, givenY.map Bytes.toList⟩ := by
      rw [← hx, ← hy]
    have hrun : runLocalDemo Sha256.sha256 (c.draws y b) o.toCliOptions = .ok {
        x := ({ c with given := given } : AliceChoices).x.toList
        y := some (givenY.getD y).toList
        u := (aliceShare { c with given := given }).toList
        v := (localShare { c with given := given } (givenY.getD y)).toList
        verification := "ok" } := by
      rw [ho]
      exact runLocalDemo_eq Sha256.sha256 hc h.b (h.nonDegenerate given _) rfl o.debugReveal
    rw [if_pos rfl, hrun]
    exact .localDemo hlocal (given_getD hy) rfl rfl multiplies_local rfl
  | false =>
    obtain ⟨host, hhost, -⟩ := hhost hlocal
    rw [if_neg (by simp), hhost, Option.getD_some]
    cases givenY with
    | some s =>
      have ho : runNetworkDemo Sha256.sha256 (c.draws y b) proto o.toCliOptions =
          .throw "network mode does not accept --y; Bob generates y on the server side" := by
        rw [runNetworkDemo, hy]
        rfl
      rw [ho]
      exact .refused hlocal hhost (by rw [hy]; rfl)
    | none =>
      have ho : runNetworkDemo Sha256.sha256 (c.draws y b) proto o.toCliOptions =
          client Sha256.sha256 proto { c with given := given } y b o.debugReveal := by
        have hopts : o.toCliOptions = ⟨o.debugReveal, given.map Bytes.toList, none⟩ := by
          rw [← hx, ← show o.y = none from hy]
        rw [hopts]
        rfl
      rw [ho]
      refine .networkDemo hlocal hhost hy fun hcheck w hw => ?_
      rw [Sha2.sha256Digest_eq] at hw
      obtain ⟨⟨w', hrun, hend⟩, hcourse⟩ := wire_completes (machineOps_lawful hdraws) hproto hc h.b
        (h.nonDegenerate given y) o.debugReveal hcheck hmost hw
      have hu : (aliceShare { c with given := given }).toList =
          MTAProtocol.computeAliceShare (((List.range 256).map c.ui).map Bytes.toList) := by
        rw [List.map_map]
        exact client_aliceShare.symm
      refine ⟨w', _, _, hrun, hend, hcourse, rfl, hu, rfl, rfl, multiplies_network, fun hreveal => ?_,
        fun hreveal => ?_⟩
      · rw [hreveal]
        rfl
      · rw [hreveal]
        exact ⟨rfl, verification_ok⟩

/-- A debug session with a host, over zeros in memory. -/
theorem main_ends_host : ∃ x, Ends
    (fun session => connected session (machineOps machine fun _ _ => [ofNat 1]) Sha2.sha256Digest
      .zero (.ofNat 32 5) fun _ => .ofNat 32 2)
    (fun _ => 1) .zero ((List.range 256).map smallChoices.ui)
    ⟨⟨true, none, none⟩, some (text "alice"), false, 8888⟩ x (.ofNat 32 5)
    (main (List.map lowerAscii) Sha256.sha256
      (smallChoices.draws (.ofNat 32 5) fun _ => .ofNat 32 2) wireTypes
      [text "--host", text "alice", text "--debug-reveal"]) := by
  have hone : ValidScalar (.ofNat 32 1) := by decide
  have htwo : ValidScalar (.ofNat 32 2) := by decide
  have hapart : Bytes.ofNat 32 1 ≠ Bytes.ofNat 32 2 ∧
      (Bytes.ofNat 32 1).nat + (Bytes.ofNat 32 2).nat ≠ n := by decide
  have hdrawn : Drawn smallChoices (.ofNat 32 5) fun _ => .ofNat 32 2 :=
    ⟨hone, by decide, fun _ _ => hone, fun _ _ => hone, fun _ _ => hapart, fun _ _ => htwo⟩
  obtain ⟨x, -, -, hends⟩ := main_ends lowers_map wireTypes_lawful (fun _ _ => [ofNat 1])
    (fun _ _ => by decide +kernel) .zero (fun _ => 1) (fun _ => Nat.one_pos) hdrawn
    (show parseArgs (List.map lowerAscii) [text "--host", text "alice", text "--debug-reveal"] =
      .options ⟨⟨true, none, none⟩, some (text "alice"), false, 8888⟩ from rfl)
  exact ⟨x, hends⟩

end CotMta.Session
