import GraphSchema.Fingerprint
import GraphSchema.Statement.Basic

/-
  This file defines when statements, properties and patterns
  are equal, and what they feed to a fingerprint.  Statements
  are equal when their variables agree and they have the
  same properties in any order.  Names of anonymous variables
  and default values play no part.

  Key definitions include:
    * `Statement.equal`
    * `Property.equal`
    * `Pattern.equal`
    * `Statement.indexedEqual`
    * `Statement.feed`
    * `Property.feed`
    * `Pattern.feed`
    * `Property.fingerprint`
-/

------------------------------------------------------------
-- Equality
------------------------------------------------------------

namespace GraphSchema

mutual

/-
  Properties are equal when they are of one kind with equal
  parts, apart from a default value.
-/
def Property.equal : Property → Property → Bool
| .type l, .type m => l == m
| .abstract, .abstract => true
| .sub s direct, .sub t direct' =>
    s.equal t && direct == direct'
| .has s isKey _, .has t isKey' _ =>
    s.equal t && isKey == isKey'
| .plays s required, .plays t required' =>
    s.equal t && required == required'
| .relates s none, .relates t none => s.equal t
| .relates s (some u), .relates t (some v) =>
    s.equal t && u.equal v
| .datatype d, .datatype e => d == e
| .regex l, .regex m => l == m
| .premise p, .premise q => p.equal q
| .conclusion p, .conclusion q => p.equal q
| _, _ => false
termination_by structural p => p

/-
  Statements are equal when their variables agree, they have
  the same number of properties, and each property of the
  first is found in the second.
-/
def Statement.equal : Statement → Statement → Bool
| ⟨v, ⟨entries, count⟩⟩, t =>
    decide (v.Agree t.var) &&
      count == t.properties.count &&
      Entry.allFound entries t.properties.newestFirst
termination_by structural s => s

/-
  Every property of the first entries equals a property of
  the second ones.  Only properties with the same
  fingerprint are compared.  The recursion is on the first
  property, so it stands on the left of a comparison.
-/
def Entry.allFound : List Entry → List Entry → Bool
| [], _ => true
| ⟨p, fingerprint⟩ :: entries, others =>
    (others.filter (fun e => e.fingerprint == fingerprint)).any
        (fun e => p.equal e.property) &&
      Entry.allFound entries others
termination_by structural entries => entries

/- Patterns are equal as trees with equal statements. -/
def Pattern.equal : Pattern → Pattern → Bool
| .statement s, .statement t => s.equal t
| .conjunction ps, .conjunction qs => Pattern.allEqual ps qs
| .disjunction ps, .disjunction qs => Pattern.allEqual ps qs
| .negation p, .negation q => p.equal q
| _, _ => false
termination_by structural p => p

/- Two lists of patterns are equal, one by one. -/
def Pattern.allEqual : List Pattern → List Pattern → Bool
| [], [] => true
| p :: ps, q :: qs => p.equal q && Pattern.allEqual ps qs
| _, _ => false
termination_by structural ps => ps

end

instance : BEq Property :=
  ⟨Property.equal⟩

instance : BEq Statement :=
  ⟨Statement.equal⟩

instance : BEq Pattern :=
  ⟨Pattern.equal⟩

/-
  Equality of statements by an index of the second one.  The
  properties that have a fingerprint are looked up in the
  index, and these stand on the left of a comparison.
-/
def Statement.indexedEqual (s t : Statement) : Bool :=
  let indexed (fingerprint : UInt64) : List Property :=
    (t.properties.newestFirst.filter
        (fun e => e.fingerprint == fingerprint)).map
      Entry.property
  decide (s.var.Agree t.var) &&
    s.properties.count == t.properties.count &&
    s.properties.newestFirst.all
      (fun e =>
        (indexed e.fingerprint).any (· == e.property))

end GraphSchema

------------------------------------------------------------
-- Feeds
------------------------------------------------------------

namespace GraphSchema

namespace Statement

/-
  The sum of the fingerprints of the properties, which does
  not depend on their order.
-/
def fingerprintSum (s : Statement) : UInt64 :=
  s.properties.newestFirst.foldl
    (fun sum e => sum + e.fingerprint) 0

/-
  The feed of a statement.  A variable takes part if it was
  named by a user.
-/
def feed (s : Statement) : List FeedItem :=
  let var :=
    if s.var.IsUserDefined then
      [.text s.var.name, .tag 0]
    else
      []
  var ++ [.count s.properties.count, .word s.fingerprintSum]

end Statement

namespace Pattern

mutual

/- The feed of a pattern. -/
def feed : Pattern → List FeedItem
| .statement s => .tag 0 :: s.feed
| .conjunction ps =>
    .tag 1 :: .count ps.length :: listFeed ps
| .disjunction ps =>
    .tag 2 :: .count ps.length :: listFeed ps
| .negation p => .tag 3 :: p.feed
termination_by structural p => p

/- The feeds of several patterns, one after another. -/
def listFeed : List Pattern → List FeedItem
| [] => []
| p :: ps => p.feed ++ listFeed ps
termination_by structural ps => ps

end

end Pattern

namespace Property

/- The number of a datatype in a feed. -/
def datatypeTag : DataType → Nat
| .long => 0
| .double => 1
| .string => 2
| .boolean => 3
| .date => 4

/- The feed of a property, which leaves out default values. -/
def feed : Property → List FeedItem
| .type label => [.tag 0, .text label]
| .abstract => [.tag 1]
| .sub s direct => .tag 2 :: (s.feed ++ [.flag direct])
| .has s isKey _ => .tag 3 :: (s.feed ++ [.flag isKey])
| .plays s required => .tag 4 :: (s.feed ++ [.flag required])
| .relates s none => .tag 5 :: (s.feed ++ [.tag 0])
| .relates s (some t) =>
    .tag 5 :: (s.feed ++ .tag 1 :: t.feed)
| .datatype d => [.tag 6, .tag (datatypeTag d)]
| .regex expression => [.tag 7, .text expression]
| .premise p => .tag 8 :: p.feed
| .conclusion p => .tag 9 :: p.feed

/- The fingerprint of a property. -/
def fingerprint
    [Fingerprint]
    (p : Property) : UInt64 :=
  Fingerprint.ofFeed p.feed

end Property

end GraphSchema
