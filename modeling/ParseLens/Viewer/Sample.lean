import ParseLens.Exchange.Reply

set_option autoImplicit false

/-!
# Viewer: a sample

The canonical LR(1) automaton of the grammar `S → A A`, `A → a A | b`, its parsing table, and the
recorded parse of `a b b`.  Productions are numbered from one: `S → A A`, `A → a A`, `A → b`.
-/

namespace ParseLens.Sample

/-- The grammar. -/
def grammar : Grammar := .initial

/-- The state with the given number and items. -/
def itemSet (state : UInt64) (items : List (String × String × Int64 × String)) : ItemSet :=
  ⟨state, items.map fun (nonTerminal, production, dotPosition, lookahead) =>
    ⟨nonTerminal, production, dotPosition, lookahead⟩⟩

/-- The states. -/
def sets : List ItemSet := [
  itemSet 0 [("S'", "S", 0, "$"), ("S", "A A", 0, "$"), ("A", "a A", 0, "a"), ("A", "a A", 0, "b"),
    ("A", "b", 0, "a"), ("A", "b", 0, "b")],
  itemSet 1 [("S'", "S", 1, "$")],
  itemSet 2 [("S", "A A", 1, "$"), ("A", "a A", 0, "$"), ("A", "b", 0, "$")],
  itemSet 3 [("A", "a A", 1, "a"), ("A", "a A", 1, "b"), ("A", "a A", 0, "a"), ("A", "a A", 0, "b"),
    ("A", "b", 0, "a"), ("A", "b", 0, "b")],
  itemSet 4 [("A", "b", 1, "a"), ("A", "b", 1, "b")],
  itemSet 5 [("S", "A A", 2, "$")],
  itemSet 6 [("A", "a A", 1, "$"), ("A", "a A", 0, "$"), ("A", "b", 0, "$")],
  itemSet 7 [("A", "b", 1, "$")],
  itemSet 8 [("A", "a A", 2, "a"), ("A", "a A", 2, "b")],
  itemSet 9 [("A", "a A", 2, "$")]]

/-- The entries of the table. -/
def table : OrderedMap Entry := .ofList [
  ("0_a", ⟨.shift, "3"⟩), ("0_b", ⟨.shift, "4"⟩), ("0_S", ⟨.goto, "1"⟩), ("0_A", ⟨.goto, "2"⟩),
  ("1_$", ⟨.accept, ""⟩),
  ("2_a", ⟨.shift, "6"⟩), ("2_b", ⟨.shift, "7"⟩), ("2_A", ⟨.goto, "5"⟩),
  ("3_a", ⟨.shift, "3"⟩), ("3_b", ⟨.shift, "4"⟩), ("3_A", ⟨.goto, "8"⟩),
  ("4_a", ⟨.reduce, "3"⟩), ("4_b", ⟨.reduce, "3"⟩),
  ("5_$", ⟨.reduce, "1"⟩),
  ("6_a", ⟨.shift, "6"⟩), ("6_b", ⟨.shift, "7"⟩), ("6_A", ⟨.goto, "9"⟩),
  ("7_$", ⟨.reduce, "3"⟩),
  ("8_a", ⟨.reduce, "2"⟩), ("8_b", ⟨.reduce, "2"⟩),
  ("9_$", ⟨.reduce, "2"⟩)]

/-- The recorded parse. -/
def steps : List Step := [
  ⟨[(0, "")], ["a", "b", "b", "$"], .shift, "3"⟩,
  ⟨[(0, ""), (3, "a")], ["b", "b", "$"], .shift, "4"⟩,
  ⟨[(0, ""), (3, "a"), (4, "b")], ["b", "$"], .reduce, "3"⟩,
  ⟨[(0, ""), (3, "a"), (8, "A")], ["b", "$"], .reduce, "2"⟩,
  ⟨[(0, ""), (2, "A")], ["b", "$"], .shift, "7"⟩,
  ⟨[(0, ""), (2, "A"), (7, "b")], ["$"], .reduce, "3"⟩,
  ⟨[(0, ""), (2, "A"), (5, "A")], ["$"], .reduce, "1"⟩,
  ⟨[(0, ""), (1, "S")], ["$"], .accept, ""⟩]

/-- The whole answer. -/
def response : Response := ⟨sets, table, steps⟩

/-- The reply that brings an answer. -/
def okReply (r : Response) : Reply := ⟨200, r.text⟩

/-- The reply that refuses a request with an explanation. -/
def errorReply (status : UInt16) (detail : String) : Reply :=
  ⟨status, (Json.Value.object [("detail", .string detail)]).compact⟩

end ParseLens.Sample
