/-
  `client/src/client.ts`: the command line.

  `process.exit` and a thrown error are outcomes of their own.  An argument is a
  string of JavaScript, and so is the message of an error.
-/
import CotMta.Client.Demo

namespace CotMta.Client

/-! ## Strings -/

namespace JsString

/-- A string literal of ASCII characters. -/
def text (s : String) : JsString := s.toList.map fun c => UInt16.ofNat c.toNat

/-- White space and line terminators, as `parseInt` skips them. -/
def isBlank (u : UInt16) : Bool :=
  (0x09 ≤ u && u ≤ 0x0D) || u == 0x20 || u == 0xA0 || u == 0x1680 ||
    (0x2000 ≤ u && u ≤ 0x200A) || u == 0x2028 || u == 0x2029 || u == 0x202F || u == 0x205F ||
    u == 0x3000 || u == 0xFEFF

/-- The digits `0` to `9`. -/
def isDigit (u : UInt16) : Bool := 0x30 ≤ u && u ≤ 0x39

/-- `Number.parseInt(s, 10)`, without the rounding of large numbers; `none` is `NaN`. -/
def parseInt (s : JsString) : Option ℤ :=
  let s := s.dropWhile isBlank
  let (sign, s) : ℤ × JsString := match s with
    | 0x2D :: s => (-1, s)
    | 0x2B :: s => (1, s)
    | s => (1, s)
  let digits := s.takeWhile isDigit
  if digits.isEmpty then none
  else some (sign * (digits.foldl (fun value u => 10 * value + (u.toNat - 0x30)) 0 : ℕ))

end JsString

open JsString

/-! ## The options -/

/-- All of the options. -/
structure Options extends CliOptions where
  host : Option JsString
  isLocal : Bool
  port : ℤ

/-- What `parseArgs` starts from. -/
def Options.initial : Options where
  debugReveal := false
  x := none
  y := none
  host := none
  isLocal := true
  port := 8888

/-- What `parseArgs` returns, or how the program ends in it. -/
inductive Parsed where
  | options (options : Options)
  /-- `process.exit(0)` after the usage -/
  | exit
  | error (message : JsString)

section
variable (toLowerCase : JsString → JsString)

/-- An argument that takes a value, with its value. -/
def setValue (arg value : JsString) (options : Options) : Except JsString Options :=
  if arg = text "--x" then
    match CryptoOps.scalarFromHex toLowerCase value with
    | .error message => .error (text message)
    | .ok x => .ok { options with x := some x }
  else if arg = text "--y" then
    match CryptoOps.scalarFromHex toLowerCase value with
    | .error message => .error (text message)
    | .ok y => .ok { options with y := some y }
  else if arg = text "--host" then .ok { options with host := some value, isLocal := false }
  else
    -- `--port`
    match parseInt value with
    | none => .error (text "port must be an integer in range 1..65535")
    | some port =>
      if port ≤ 0 ∨ port > 65535 then .error (text "port must be an integer in range 1..65535")
      else .ok { options with port := port }

/-- The loop on the arguments that are left. -/
def parseLoop : List JsString → Options → Parsed
  | [], options => .options options
  | arg :: rest, options =>
    if arg ∈ [text "--x", text "--y", text "--host", text "--port"] then
      match rest with
      | [] => .error (text "missing value after " ++ arg)
      | value :: rest =>
        -- the empty string is falsy
        if value = [] then .error (text "missing value after " ++ arg)
        else match setValue toLowerCase arg value options with
          | .error message => .error message
          | .ok options => parseLoop rest options
    else if arg = text "--local" then parseLoop rest { options with isLocal := true }
    else if arg = text "--debug-reveal" then parseLoop rest { options with debugReveal := true }
    else if arg = text "--help" ∨ arg = text "-h" then .exit
    else .error (text "unknown argument: " ++ arg)

/-- The options of a command line. -/
def parseArgs (argv : List JsString) : Parsed := parseLoop toLowerCase argv .initial

end

/-! ## The program -/

/-- What `main` does: the demo that it runs, or how the process ends without one. -/
inductive Main where
  | localDemo (result : Throws DemoOutput)
  | networkDemo (host : JsString) (port : ℤ) (session : Session DemoOutput)
  | exit
  | fatal (message : JsString)

/-- `main` on `process.argv.slice(2)`. -/
def main (toLowerCase : JsString → JsString) (sha256 : List UInt8 → Bytes 32) (draws : Draws)
    (proto : ProtoTypes) (argv : List JsString) : Main :=
  match parseArgs toLowerCase argv with
  | .options options =>
    if options.isLocal then .localDemo (runLocalDemo sha256 draws options.toCliOptions)
    else .networkDemo (options.host.getD (text "127.0.0.1")) options.port
      (runNetworkDemo sha256 draws proto options.toCliOptions)
  | .exit => .exit
  | .error message => .fatal message

end CotMta.Client
