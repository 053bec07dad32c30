import CotMta.Lib.Primality
import CotMta.Lib.ShortWeierstrass
import CotMta.Lib.JacobianMultiple
import CotMta.Secp256k1
import CotMta.Lib.SignedDigits
import CotMta.Lib.Jacobian
import CotMta.Lib.Rejection
import CotMta.Lib.Limbs
import CotMta.Lib.Bytes
import CotMta.Lib.MerkleDamgard
import CotMta.Lib.Sha256
import CotMta.Trezor.Sha2
import CotMta.Trezor.Sha2Spec
import CotMta.Compressed
import CotMta.Lib.PartialReduction
import CotMta.Trezor.Bignum
import CotMta.Trezor.BignumSpec
import CotMta.Trezor.BignumMul
import CotMta.Client.JsString
import CotMta.Client.CryptoOps
import CotMta.Client.Arith
import CotMta.Client.Hex
import CotMta.Client.Inverse
import CotMta.Client.Curve
import CotMta.Client.GroupLaw
import CotMta.Client.OtProtocol
import CotMta.Client.Sender
import CotMta.Client.Pads
import CotMta.Trezor.Curve
import CotMta.Nanopb.Decode
import CotMta.Lib.Records
import CotMta.Lib.Process
import CotMta.Lib.ProcessLogic
import CotMta.Lib.Wire
import CotMta.Lib.Framing
import CotMta.Messages
import CotMta.Client.Demo
import CotMta.Client.Args
import CotMta.Client.ArgsSpec
import CotMta.Nanopb.Wire
import CotMta.Nanopb.Merge
import CotMta.Nanopb.Records
import CotMta.Client.FramedSocket
import CotMta.Client.FramedReads
import CotMta.Client.EndedStream
import CotMta.Server.ProtoCodec
import CotMta.Server.Codec
import CotMta.Server.Payloads
import CotMta.Trezor.EcdsaSpec
import CotMta.Trezor.PointAdd
import CotMta.Trezor.Jacobian
import CotMta.Trezor.JacobianSpec
import CotMta.Trezor.MultiplySpec
import CotMta.Lib.AlmostInverse
import CotMta.Trezor.Inverse
import CotMta.Trezor.Table
import CotMta.Trezor.TableSpec
import CotMta.Trezor.InverseSpec
import CotMta.Trezor.Operations
import CotMta.Trezor.Variants
import CotMta.Server.Arith
import CotMta.Server.OtProtocol
import CotMta.Server.PointBytes
import CotMta.Server.ServerApp
import CotMta.Server.Framing
import CotMta.Server.Curve
import CotMta.Server.Subtraction
import CotMta.Session.GroupOps
import CotMta.Session.Replies
import CotMta.Session.Points
import CotMta.Session.Subtraction
import CotMta.Session.FailedInit
import CotMta.Session.Transfer
import CotMta.Session.Shares
import CotMta.Session.Choices
import CotMta.Session.Codecs
import CotMta.Session.Network
import CotMta.Session.EndToEnd
import CotMta.Session.Privacy
import CotMta.Session.Framing
import CotMta.Session.Ports
import CotMta.Session.ClientRuns
import CotMta.Session.Hiding
import CotMta.Session.Wire
import CotMta.Session.CommandLine
import CotMta.Session.ServerRuns
import CotMta.Session.Draws
import CotMta.Lib.MaskedSums
import CotMta.Session.Masks
