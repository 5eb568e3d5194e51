import VehicleEdge.Someip.DecodeBounds

/-
This file says which datapoint `on_someip_message` feeds for each addressed node.
-/

namespace VehicleEdge.Someip

open Sdv (Datapoint)

/-- A node feeds its decoded value, or the transform entry for the text of its integer value. -/
def fedValue (host : Host) (payload : Payload) (node : VSSNode) : Option Datapoint :=
  let field := decodeField host payload node
  if 0 < node.transformMapping.entries.length then
    (node.transformMapping.lookup (toString field.tmpValue.toInt)).map createDatapoint
  else field.value

/-- This is the call of `FeedValue` for the node, if there is one. -/
def feedOf (host : Host) (payload : Payload) (node : VSSNode) : Option Feed :=
  (fedValue host payload node).map fun value => ⟨node, value⟩

section Loop

variable (host : Host) (payload : Payload)

/-- The value that the frame keeps from an earlier node is never fed for a later one. -/
theorem feedNode_feeds (frame : MessageFrame) (node : VSSNode) :
    (feedNode host payload frame node).feeds = frame.feeds ++ (feedOf host payload node).toList := by
  unfold feedNode transformField feedOf fedValue
  dsimp only
  split
  case isTrue =>
    cases node.transformMapping.lookup (toString (decodeField host payload node).tmpValue.toInt) <;> simp
  case isFalse =>
    cases (decodeField host payload node).value <;> simp

theorem foldl_feeds (nodes : List VSSNode) (frame : MessageFrame) :
    (nodes.foldl (feedNode host payload) frame).feeds =
      frame.feeds ++ nodes.filterMap (feedOf host payload) := by
  induction nodes generalizing frame with
  | nil => simp
  | cons node nodes ih =>
      rw [List.foldl_cons, ih, feedNode_feeds, List.append_assoc, List.filterMap_cons]
      cases feedOf host payload node <;> rfl

/-- A message reads the fields of its addressed nodes in file order. -/
theorem onSomeipMessage_reads (config : SomeIPConfig) (serviceId instanceId methodId : UInt16) :
    (onSomeipMessage host config serviceId instanceId methodId payload).reads =
      (eventNodes config serviceId instanceId methodId).flatMap
        fun node => (decodeField host payload node).reads := by
  rw [onSomeipMessage_eq, (fed_nodes host payload _ _).1, List.nil_append]

/-- A message feeds its addressed nodes in file order. -/
theorem onSomeipMessage_feeds (config : SomeIPConfig) (serviceId instanceId methodId : UInt16) :
    (onSomeipMessage host config serviceId instanceId methodId payload).feeds =
      (eventNodes config serviceId instanceId methodId).filterMap (feedOf host payload) := by
  rw [onSomeipMessage_eq, foldl_feeds, List.nil_append]

theorem mem_feeds {config : SomeIPConfig} {serviceId instanceId methodId : UInt16} {feed : Feed} :
    feed ∈ (onSomeipMessage host config serviceId instanceId methodId payload).feeds ↔
      feed.node ∈ eventNodes config serviceId instanceId methodId ∧
        fedValue host payload feed.node = some feed.value := by
  rw [onSomeipMessage_feeds, List.mem_filterMap]
  unfold feedOf
  constructor
  · rintro ⟨node, visited, fed⟩
    obtain ⟨value, decoded, rfl⟩ := Option.map_eq_some_iff.mp fed
    exact ⟨visited, decoded⟩
  · rintro ⟨visited, decoded⟩
    exact ⟨feed.node, visited, by rw [decoded]; rfl⟩

end Loop

/-- The message feeds the node, and with this value only. -/
def FeedsOnly (frame : MessageFrame) (node : VSSNode) (value : Datapoint) : Prop :=
  ∀ other, ⟨node, other⟩ ∈ frame.feeds ↔ other = value

theorem feedsOnly_iff (host : Host) (payload : Payload) {config : SomeIPConfig}
    {serviceId instanceId methodId : UInt16} {node : VSSNode}
    (addressed : node ∈ eventNodes config serviceId instanceId methodId) (value : Datapoint) :
    FeedsOnly (onSomeipMessage host config serviceId instanceId methodId payload) node value ↔
      fedValue host payload node = some value := by
  unfold FeedsOnly
  simp only [mem_feeds, addressed, true_and]
  constructor
  · intro only
    exact (only value).mpr rfl
  · intro fed other
    rw [fed, Option.some.injEq, eq_comm]

/-- A node without a transform feeds what its branch decodes. -/
theorem fedValue_plain (host : Host) (payload : Payload) {node : VSSNode}
    (plain : node.transformMapping.entries.length = 0) :
    fedValue host payload node = (decodeField host payload node).value := by
  unfold fedValue
  rw [plain]
  rfl

theorem fedValue_transform (host : Host) (payload : Payload) {node : VSSNode}
    (transform : 0 < node.transformMapping.entries.length) :
    fedValue host payload node =
      (node.transformMapping.lookup (toString (decodeField host payload node).tmpValue.toInt)).map
        createDatapoint := by
  unfold fedValue
  rw [if_pos transform]

end VehicleEdge.Someip
