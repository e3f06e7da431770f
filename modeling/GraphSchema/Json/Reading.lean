import GraphSchema.Json.Tree

/-
  This file defines the reading of documents.  The tokens
  are taken one by one, and the containers that are still
  open wait on a stack.

  Key definitions include:
    * `Json.Frame`
    * `Json.State`
    * `Json.State.step`
    * `Json.ofTokens?`
    * `Json.ofText?`
-/

------------------------------------------------------------
-- Open Containers
------------------------------------------------------------

namespace GraphSchema

namespace Json

/- A member whose name may be garbled. -/
abbrev RawMember :=
  Option String × Json

/-
  A container that waits for the value of its next item or
  member.  What it already holds is listed newest first.
-/
inductive Frame where
| items (earlier : List Json)
| members (earlier : List RawMember) (name : Option String)

/-
  The object with given members, newest first.  A garbled
  name garbles the object.
-/
def ofRawMembers (newestFirst : List RawMember) : Json :=
  let named :=
    newestFirst.reverse.mapM (fun (name, content) =>
      name.map (fun s => (s, content)))
  match named with
  | some members => .object members
  | none => .garbled

end Json

end GraphSchema

------------------------------------------------------------
-- States of Reading
------------------------------------------------------------

namespace GraphSchema

namespace Json

/- What the reader expects next, by what it has read. -/
inductive State where
| value (stack : List Frame)
| firstItem (stack : List Frame)
| firstName (stack : List Frame)
| nextName (stack : List Frame) (earlier : List RawMember)
| colon
    (stack : List Frame)
    (earlier : List RawMember)
    (name : Option String)
| afterItem (stack : List Frame) (items : List Json)
| afterMember
    (stack : List Frame)
    (members : List RawMember)
| finished (document : Json)

namespace State

/- The state after a value is complete. -/
def deliver : List Frame → Json → State
| [], j => .finished j
| .items earlier :: stack, j =>
    .afterItem stack (j :: earlier)
| .members earlier name :: stack, j =>
    .afterMember stack ((name, j) :: earlier)

/- The state after the first token of a value. -/
def beginValue
    (stack : List Frame) :
    Token → Option State
| .null => some (deliver stack .null)
| .bool b => some (deliver stack (.bool b))
| .number n => some (deliver stack (.number n))
| .string s => some (deliver stack (.string s))
| .garbled => some (deliver stack .garbled)
| .openArray => some (.firstItem stack)
| .openObject => some (.firstName stack)
| _ => none

/- The state after the name of a member. -/
def readName
    (stack : List Frame)
    (earlier : List RawMember) :
    Token → Option State
| .string s => some (.colon stack earlier (some s))
| .garbled => some (.colon stack earlier none)
| _ => none

/- The state after one more token, if it may stand there. -/
def step : State → Token → Option State
| .value stack, t => beginValue stack t
| .firstItem stack, .closeArray =>
    some (deliver stack (.array []))
| .firstItem stack, t => beginValue (.items [] :: stack) t
| .firstName stack, .closeObject =>
    some (deliver stack (.object []))
| .firstName stack, t => readName stack [] t
| .nextName stack earlier, t => readName stack earlier t
| .colon stack earlier name, .colon =>
    some (.value (.members earlier name :: stack))
| .afterItem stack items, .comma =>
    some (.value (.items items :: stack))
| .afterItem stack items, .closeArray =>
    some (deliver stack (.array items.reverse))
| .afterMember stack members, .comma =>
    some (.nextName stack members)
| .afterMember stack members, .closeObject =>
    some (deliver stack (ofRawMembers members))
| _, _ => none

/- The document of a finished state. -/
def document? : State → Option Json
| .finished j => some j
| _ => none

end State

end Json

end GraphSchema

------------------------------------------------------------
-- Reading Documents
------------------------------------------------------------

namespace GraphSchema

namespace Json

/- The document with given tokens. -/
def ofTokens? (ts : List Token) : Option Json := do
  let state ← ts.foldlM State.step (.value [])
  state.document?

/- The document written by a text. -/
def ofText? (s : String) : Option Json := do
  let ts ← Token.ofText? s
  ofTokens? ts

end Json

end GraphSchema
