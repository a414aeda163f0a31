import SwapWarden.Node.Basic
import SwapWarden.Node.Shape
import SwapWarden.Pod.Manifest

/-!
# Nodes as manifests

The JSON form of nodes and taints.
-/

namespace SwapWarden

open Text (Json)
open Manifest

namespace Taint

/-- Reads a taint. -/
def ofManifest? (value : Json) : Option Taint := do
  let fields ← value.fields?
  let text := Json.field? Json.asText? fields
  let time := Json.field?
    (fun value => value.asText?.bind Text.Timestamp.parse?) fields
  some {
    key := (← text "key").getD ""
    effect := (← text "effect").getD ""
    value := ← text "value"
    timeAdded := ← time "timeAdded" }

/-- Writes a taint. -/
def toManifest (taint : Taint) : Json :=
  .record ([("effect", .text taint.effect), ("key", .text taint.key)] ++
    optional "timeAdded" (fun time => Json.text time.text) taint.timeAdded ++
    optional "value" Json.text taint.value)

end Taint

namespace Node

/-- Reads the taints of a node's declaration. -/
def taintList? (value : Json) : Option (Option (List Taint)) := do
  Json.field? (Json.listOf? Taint.ofManifest?) (← value.fields?) "taints"

/-- Reads a node. -/
def ofManifest? (value : Json) : Option Node := do
  let fields ← value.fields?
  if !(hasKind "Node" fields && Node.shape.fits Json.greatestDepth value) then
    none
  some {
    metadata :=
      (← Json.field? Metadata.ofManifest? fields "metadata").getD {}
    taintList := (← Json.field? taintList? fields "spec").join }

end Node

end SwapWarden
