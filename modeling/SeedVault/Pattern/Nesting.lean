/-
How deep the parts of a pattern are nested. Groups, brackets, repetitions, and sequences
of two or more parts are each a level.
-/

import SeedVault.Pattern.Basic
import SeedVault.Pattern.Problem

namespace SeedVault.Pattern

/-- The span itself if there is no room for one more level, else what is found within. -/
def tooDeepAt? (room : Nat) (span : Span) (within : Nat → Option Span) : Option Span :=
  match room with
  | 0 => some span
  | room + 1 => within room

mutual

/-- The first of the members that does not fit into the room. -/
def Members.tooDeep? (room : Nat) : Members → Option Span
  | .bracket _ members span => tooDeepAt? room span fun room => members.tooDeep? room
  | .all parts span => tooDeepAt? room span fun room => tooDeepMember? room parts
  | .operation _ left right span =>
    tooDeepAt? room span fun room => (left.tooDeep? room).or (right.tooDeep? room)
  | _ => none

def tooDeepMember? (room : Nat) : List Members → Option Span
  | [] => none
  | part :: parts => (part.tooDeep? room).or (tooDeepMember? room parts)

end

mutual

/-- The first part of a node that does not fit into the room. -/
def Node.tooDeep? (room : Nat) : Node → Option Span
  | .oneOf members => members.tooDeep? room
  | .repeated node _ _ _ span => tooDeepAt? room span fun room => node.tooDeep? room
  | .group _ _ node span => tooDeepAt? room span fun room => node.tooDeep? room
  | .sequence nodes span => tooDeepAt? room span fun room => tooDeepNode? room nodes
  | .choice nodes span => tooDeepAt? room span fun room => tooDeepNode? room nodes
  | _ => none

def tooDeepNode? (room : Nat) : List Node → Option Span
  | [] => none
  | node :: nodes => (node.tooDeep? room).or (tooDeepNode? room nodes)

end

/-- Refuses a pattern that is nested too deep. -/
def Node.checkNesting (node : Node) : Except Fault Unit :=
  match node.tooDeep? nestingLimit with
  | some span => fail .nestedTooDeep span
  | none => .ok ()

end SeedVault.Pattern
