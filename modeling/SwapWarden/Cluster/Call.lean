import SwapWarden.Fault
import SwapWarden.Text.FormEncoded
import SwapWarden.Text.Json.Basic

/-!
# Calls to the cluster's interface

A call names a method and a target, and may carry a document.  A target holds
only characters that need no encoding; what follows a `#` in it is dropped.
An address, with what is dropped of it, has a bounded length.
-/

namespace SwapWarden

open Text (Json)

/-- A call to the cluster's interface. -/
structure ClusterCall where
  method : String
  target : String
  contentType : Option String := none
  body : Option Json := none
  deriving Inhabited

namespace ClusterCall

/-- The characters of a path. -/
def isPathChar (char : Char) : Bool :=
  let code := char.toNat
  code == 0x21 || (0x24 ≤ code && code ≤ 0x3b) || code == 0x3d ||
    (0x40 ≤ code && code ≤ 0x5f) || (0x61 ≤ code && code ≤ 0x7e) ||
    code == 0x22

/-- The characters of a query. -/
def isQueryChar (char : Char) : Bool :=
  let code := char.toNat
  code == 0x21 || (0x24 ≤ code && code ≤ 0x3b) || code == 0x3d ||
    (0x3f ≤ code && code ≤ 0x7e)

/-- A target without its fragment, if its characters may stand there. -/
def target? (address : String) : Option String :=
  let whole := address.toList.takeWhile (· != '#')
  let path := whole.takeWhile (· != '?')
  let query := (whole.dropWhile (· != '?')).drop 1
  if path.all isPathChar && query.all isQueryChar then
    some (String.ofList whole)
  else
    none

/-- How many bytes an address may have. -/
def longestAddress : Nat := 65534

/-- Makes a call to an address. -/
def build (method address : String) (contentType : Option String := none)
    (body : Option Json := none) : Except Fault ClusterCall :=
  if longestAddress < address.utf8ByteSize then
    .error (.cluster .longAddress)
  else
    match target? address with
    | some target => .ok { method, target, contentType, body }
    | none => .error (.cluster .badAddress)

end ClusterCall

end SwapWarden
