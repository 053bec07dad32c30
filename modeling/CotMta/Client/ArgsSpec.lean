/-
  The command lines that `parseArgs` accepts.

  A command line is a sequence of `Setting`s.  Each changes the options as far as
  it is allowed to (`Sets`), one after the other (`Run`); nothing else is
  accepted, and the first word that does not fit decides about the rest.
-/
import CotMta.Client.Args
import CotMta.Client.Hex
import CotMta.Compressed

namespace CotMta.Client

open JsString CryptoOps Secp256k1

/-- An option as it is written. -/
inductive Setting where
  | x (hex : JsString)
  | y (hex : JsString)
  | host (name : JsString)
  | port (number : JsString)
  | local
  | debugReveal

/-- The arguments that the setting is written with. -/
def Setting.words : Setting → List JsString
  | .x hex => [text "--x", hex]
  | .y hex => [text "--y", hex]
  | .host name => [text "--host", name]
  | .port number => [text "--port", number]
  | .local => [text "--local"]
  | .debugReveal => [text "--debug-reveal"]

/-- What a setting does to the options. -/
inductive Sets : Setting → Options → Options → Prop
  | x {hex : JsString} {s : Bytes 32} {o : Options} : Spells hex s.nat → ValidScalar s →
    Sets (.x hex) o { o with x := some s.toList }
  | y {hex : JsString} {s : Bytes 32} {o : Options} : Spells hex s.nat → ValidScalar s →
    Sets (.y hex) o { o with y := some s.toList }
  | host {name : JsString} {o : Options} : name ≠ [] →
    Sets (.host name) o { o with host := some name, isLocal := false }
  | port {number : JsString} {port : ℤ} {o : Options} : parseInt number = some port →
    0 < port → port ≤ 65535 → Sets (.port number) o { o with port := port }
  | local {o : Options} : Sets .local o { o with isLocal := true }
  | debugReveal {o : Options} : Sets .debugReveal o { o with debugReveal := true }

/-- Settings one after the other. -/
inductive Run : List Setting → Options → Options → Prop
  | nil {o : Options} : Run [] o o
  | cons {setting : Setting} {settings : List Setting} {o o' o'' : Options} :
    Sets setting o o' → Run settings o' o'' → Run (setting :: settings) o o''

/-- The words that take a value. -/
def valueWords : List JsString := [text "--x", text "--y", text "--host", text "--port"]

variable {toLowerCase : JsString → JsString} {o o' : Options} {arg value : JsString}
  {rest argv : List JsString} {setting : Setting} {settings : List Setting}

theorem not_spells_nil {v : ℕ} : ¬Spells [] v := by
  rintro ⟨marker, digits, h, -, hlen, -⟩
  obtain ⟨-, rfl⟩ := List.nil_eq_append_iff.1 h
  exact absurd hlen (by norm_num)

/-- A scalar on the command line. -/
theorem scalarFromHex_ok (hlower : ∀ s, Lowers s (toLowerCase s)) {bytes : Uint8Array} :
    scalarFromHex toLowerCase value = .ok bytes ↔
      ∃ s : Bytes 32, s.toList = bytes ∧ Spells value s.nat ∧ ValidScalar s := by
  constructor
  · intro h
    obtain ⟨v, hv⟩ := spells_of_scalarFromHex (hlower value) h
    obtain ⟨hrange, rfl⟩ := (scalarFromHex_eq_ok (hlower value) hv).1 h
    have hnat : (Bytes.ofNat 32 v).nat = v := Bytes.nat_ofNat (hrange.2.trans (by norm_num [n]))
    exact ⟨Bytes.ofNat 32 v, rfl, by rwa [hnat], by rw [ValidScalar, hnat]; exact hrange⟩
  · rintro ⟨s, rfl, hspells, hvalid⟩
    refine (scalarFromHex_eq_ok (hlower value) hspells).2 ⟨hvalid, ?_⟩
    exact congrArg Bytes.toList s.ofNat_nat

/-- What a flag does with its value. -/
theorem setValue_x : setValue toLowerCase (text "--x") value o =
    match scalarFromHex toLowerCase value with
    | .error message => .error (text message)
    | .ok x => .ok { o with x := some x } :=
  if_pos rfl

theorem setValue_y : setValue toLowerCase (text "--y") value o =
    match scalarFromHex toLowerCase value with
    | .error message => .error (text message)
    | .ok y => .ok { o with y := some y } :=
  (if_neg (by decide)).trans (if_pos rfl)

theorem setValue_host : setValue toLowerCase (text "--host") value o =
    .ok { o with host := some value, isLocal := false } := by
  rw [setValue, if_neg (by decide), if_neg (by decide), if_pos rfl]

theorem setValue_port : setValue toLowerCase (text "--port") value o =
    match parseInt value with
    | none => .error (text "port must be an integer in range 1..65535")
    | some port =>
      if port ≤ 0 ∨ port > 65535 then .error (text "port must be an integer in range 1..65535")
      else .ok { o with port := port } :=
  (if_neg (by decide)).trans ((if_neg (by decide)).trans (if_neg (by decide)))

/-- A value that is accepted makes a setting. -/
theorem sets_of_setValue (hlower : ∀ s, Lowers s (toLowerCase s)) (harg : arg ∈ valueWords)
    (hvalue : value ≠ []) (h : setValue toLowerCase arg value o = .ok o') :
    ∃ setting : Setting, setting.words = [arg, value] ∧ Sets setting o o' := by
  simp only [valueWords, List.mem_cons, List.not_mem_nil, or_false] at harg
  rcases harg with rfl | rfl | rfl | rfl
  · rw [setValue_x] at h
    cases hx : scalarFromHex toLowerCase value with
    | error message => simp [hx] at h
    | ok bytes =>
      obtain ⟨s, rfl, hspells, hvalid⟩ := (scalarFromHex_ok hlower).1 hx
      rw [hx] at h
      exact ⟨.x value, rfl, Except.ok.inj h ▸ .x hspells hvalid⟩
  · rw [setValue_y] at h
    cases hy : scalarFromHex toLowerCase value with
    | error message => simp [hy] at h
    | ok bytes =>
      obtain ⟨s, rfl, hspells, hvalid⟩ := (scalarFromHex_ok hlower).1 hy
      rw [hy] at h
      exact ⟨.y value, rfl, Except.ok.inj h ▸ .y hspells hvalid⟩
  · rw [setValue_host] at h
    exact ⟨.host value, rfl, Except.ok.inj h ▸ .host hvalue⟩
  · rw [setValue_port] at h
    cases hport : parseInt value with
    | none => simp [hport] at h
    | some port =>
      by_cases hrange : port ≤ 0 ∨ port > 65535
      · simp [hport, hrange] at h
      · simp only [hport, if_neg hrange] at h
        rw [not_or] at hrange
        exact ⟨.port value, rfl,
          Except.ok.inj h ▸ .port hport (not_le.1 hrange.1) (not_lt.1 hrange.2)⟩

/-! ## The loop -/

theorem parseLoop_value (harg : arg ∈ valueWords) (hvalue : value ≠ [])
    (h : setValue toLowerCase arg value o = .ok o') :
    parseLoop toLowerCase (arg :: value :: rest) o = parseLoop toLowerCase rest o' := by
  rw [parseLoop.eq_def]
  simp only [show arg ∈ [text "--x", text "--y", text "--host", text "--port"] from harg, if_true,
    if_neg hvalue, h]

/-- The words of a setting. -/
theorem parseLoop_setting (hlower : ∀ s, Lowers s (toLowerCase s)) (h : Sets setting o o') :
    parseLoop toLowerCase (setting.words ++ rest) o = parseLoop toLowerCase rest o' := by
  cases h with
  | x hspells hvalid =>
    refine parseLoop_value (by decide) (fun h => not_spells_nil (h ▸ hspells)) ?_
    rw [setValue_x, (scalarFromHex_ok hlower).2 ⟨_, rfl, hspells, hvalid⟩]
  | y hspells hvalid =>
    refine parseLoop_value (by decide) (fun h => not_spells_nil (h ▸ hspells)) ?_
    rw [setValue_y, (scalarFromHex_ok hlower).2 ⟨_, rfl, hspells, hvalid⟩]
  | host hname => exact parseLoop_value (by decide) hname setValue_host
  | port hport h0 hle =>
    refine parseLoop_value (by decide) ?_ ?_
    · rintro rfl
      cases hport
    · rw [setValue_port, hport]
      exact if_neg (by omega)
  | «local» =>
    rw [Setting.words, List.singleton_append, parseLoop.eq_def]
    exact (if_neg (by decide)).trans (if_pos rfl)
  | debugReveal =>
    rw [Setting.words, List.singleton_append, parseLoop.eq_def]
    exact (if_neg (by decide)).trans ((if_neg (by decide)).trans (if_pos rfl))

theorem parseLoop_run (hlower : ∀ s, Lowers s (toLowerCase s)) (h : Run settings o o') :
    parseLoop toLowerCase (settings.flatMap Setting.words ++ rest) o =
      parseLoop toLowerCase rest o' := by
  induction h with
  | nil => rfl
  | cons hsets _ ih => rw [List.flatMap_cons, List.append_assoc, parseLoop_setting hlower hsets, ih]

theorem run_of_parseLoop (hlower : ∀ s, Lowers s (toLowerCase s)) (argv : List JsString)
    (o : Options) : parseLoop toLowerCase argv o = .options o' →
      ∃ settings, argv = settings.flatMap Setting.words ∧ Run settings o o' := by
  have hcons : ∀ {setting rest o o₁}, Sets setting o o₁ →
      (∃ settings, rest = settings.flatMap Setting.words ∧ Run settings o₁ o') →
      ∃ settings, setting.words ++ rest = settings.flatMap Setting.words ∧ Run settings o o' := by
    rintro setting _ o o₁ hsets ⟨settings, rfl, hrun⟩
    exact ⟨setting :: settings, rfl, .cons hsets hrun⟩
  induction argv, o using parseLoop.induct toLowerCase with
  | case1 o =>
    intro h
    rw [parseLoop] at h
    exact ⟨[], rfl, Parsed.options.inj h ▸ .nil⟩
  | case2 arg o harg =>
    intro h
    rw [parseLoop.eq_def] at h
    simp only [if_pos harg, reduceCtorEq] at h
  | case3 arg o harg rest =>
    intro h
    rw [parseLoop.eq_def] at h
    simp only [if_pos harg, if_true, reduceCtorEq] at h
  | case4 arg o harg value rest hvalue message hset =>
    intro h
    rw [parseLoop.eq_def] at h
    simp only [if_pos harg, if_neg hvalue, hset, reduceCtorEq] at h
  | case5 arg o harg value rest hvalue o₁ hset ih =>
    intro h
    rw [parseLoop_value harg hvalue hset] at h
    obtain ⟨setting, hwords, hsets⟩ := sets_of_setValue hlower harg hvalue hset
    have hrest := hcons hsets (ih h)
    rwa [hwords] at hrest
  | case6 rest o harg ih =>
    intro h
    have hsets : Sets .local o { o with isLocal := true } := .local
    rw [← List.singleton_append, ← Setting.words, parseLoop_setting hlower hsets] at h
    exact hcons hsets (ih h)
  | case7 rest o harg hlocal ih =>
    intro h
    have hsets : Sets .debugReveal o { o with debugReveal := true } := .debugReveal
    rw [← List.singleton_append, ← Setting.words, parseLoop_setting hlower hsets] at h
    exact hcons hsets (ih h)
  | case8 arg rest o harg hlocal hdebug hhelp =>
    intro h
    rw [parseLoop.eq_def] at h
    simp only [if_neg harg, if_neg hlocal, if_neg hdebug, if_pos hhelp, reduceCtorEq] at h
  | case9 arg rest o harg hlocal hdebug hhelp =>
    intro h
    rw [parseLoop.eq_def] at h
    simp only [if_neg harg, if_neg hlocal, if_neg hdebug, if_neg hhelp, reduceCtorEq] at h

/-! ## What is accepted -/

/-- The accepted command lines: each is read as settings, one after the other. -/
theorem accepts_iff (hlower : ∀ s, Lowers s (toLowerCase s)) :
    parseArgs toLowerCase argv = .options o ↔
      ∃ settings, argv = settings.flatMap Setting.words ∧ Run settings .initial o := by
  constructor
  · exact run_of_parseLoop hlower argv .initial
  · rintro ⟨settings, rfl, hrun⟩
    have h : parseLoop toLowerCase (settings.flatMap Setting.words ++ []) .initial =
        parseLoop toLowerCase [] o := parseLoop_run hlower hrun
    rwa [List.append_nil] at h

/-- The share three in a local run. -/
theorem accepts_iff_three :
    parseArgs (List.map lowerAscii) [text "--x", text "0x3", text "--local"] =
        .options { Options.initial with x := some (Bytes.ofNat 32 3).toList, isLocal := true } ↔
      ∃ settings : List Setting,
        [text "--x", text "0x3", text "--local"] = settings.flatMap Setting.words ∧
        Run settings .initial
          { Options.initial with x := some (Bytes.ofNat 32 3).toList, isLocal := true } :=
  accepts_iff lowers_map

/-- The mode that a setting asks for. -/
def Setting.mode : Setting → Option Bool
  | .local => some true
  | .host _ => some false
  | _ => none

/-- The last mode counts. -/
theorem Run.isLocal (h : Run settings o o') :
    o'.isLocal = (settings.filterMap Setting.mode).getLastD o.isLocal := by
  induction h with
  | nil => rfl
  | @cons setting settings o o₁ o' hsets _ ih =>
    rw [ih]
    cases hsets with
    | x => rw [List.filterMap_cons_none rfl]
    | y => rw [List.filterMap_cons_none rfl]
    | host => exact List.getLastD_cons.symm
    | port => rw [List.filterMap_cons_none rfl]
    | «local» => exact List.getLastD_cons.symm
    | debugReveal => rw [List.filterMap_cons_none rfl]

/-- What holds of the options of an accepted command line. -/
structure Options.Ok (o : Options) : Prop where
  x : ∃ x : Option (Bytes 32), o.x = x.map Bytes.toList ∧ ∀ s ∈ x, ValidScalar s
  y : ∃ y : Option (Bytes 32), o.y = y.map Bytes.toList ∧ ∀ s ∈ y, ValidScalar s
  port : 0 < o.port ∧ o.port ≤ 65535
  host : o.isLocal = false → ∃ name, o.host = some name ∧ name ≠ []

theorem Options.initial_ok : Options.initial.Ok where
  x := ⟨none, rfl, by simp⟩
  y := ⟨none, rfl, by simp⟩
  port := ⟨by decide, by decide⟩
  host := by simp [Options.initial]

/-- Every setting keeps it. -/
theorem Sets.ok (h : Sets setting o o') (ho : o.Ok) : o'.Ok := by
  cases h with
  | x _ hvalid => exact ⟨⟨some _, rfl, by simpa using hvalid⟩, ho.y, ho.port, ho.host⟩
  | y _ hvalid => exact ⟨ho.x, ⟨some _, rfl, by simpa using hvalid⟩, ho.port, ho.host⟩
  | host hname => exact ⟨ho.x, ho.y, ho.port, fun _ => ⟨_, rfl, hname⟩⟩
  | port _ h0 hle => exact ⟨ho.x, ho.y, ⟨h0, hle⟩, ho.host⟩
  | «local» => exact ⟨ho.x, ho.y, ho.port, by simp⟩
  | debugReveal => exact ⟨ho.x, ho.y, ho.port, ho.host⟩

theorem Run.ok (h : Run settings o o') : o.Ok → o'.Ok := by
  induction h with
  | nil => exact id
  | cons hsets _ ih => exact fun ho => ih (hsets.ok ho)

theorem ok_of_parseArgs (hlower : ∀ s, Lowers s (toLowerCase s))
    (h : parseArgs toLowerCase argv = .options o) : o.Ok := by
  obtain ⟨settings, -, hrun⟩ := run_of_parseLoop hlower argv .initial h
  exact hrun.ok Options.initial_ok

end CotMta.Client
