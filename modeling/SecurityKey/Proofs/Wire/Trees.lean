import SecurityKey.Wire.Writer

/-!
# Trees and how they are spelled

An object is a tree: its fields in order, each a leaf or an object again.  `Tree.encode` is the
reference encoding of a tree, by recursion on the tree itself.

A writer is told a tree step by step.  `Spells` says which steps spell which tree, beginning
with a key that may be pending already and ending with one.  A leaf and an object stand under
the key that is pending where they begin, and behind them that key is pending again; inside an
object none is pending at first.  The steps of an object stand between its start and its end,
so the first end that has no start of its own ends a spelling, and there is only one tree that
is spelled up to there (`Spells.unique`).
-/

set_option autoImplicit false

namespace SecurityKey

/-! ## Trees -/

/-- A value that is no object. -/
inductive Leaf where
  | number (value : Nat)
  | body (bytes : Bytes)

/-- The field with a leaf. -/
def Leaf.field (id : UInt32) : Leaf → Bytes
  | .number value => Bytes.ofVarintField id value
  | .body bytes => Bytes.ofDelimitedField id bytes

/-- The fields of an object, in order. -/
inductive Tree where
  | nil
  | leaf (id : UInt32) (leaf : Leaf) (others : Tree)
  | object (id : UInt32) (inner others : Tree)

namespace Tree

/-- The encoding of the fields, without a tag or a length for the object itself. -/
def encode : Tree → Bytes
  | .nil => []
  | .leaf id value others => value.field id ++ others.encode
  | .object id inner others => Bytes.ofDelimitedField id inner.encode ++ others.encode

/-- How many objects are inside one another at most, the object itself not counted. -/
def height : Tree → Nat
  | .nil => 0
  | .leaf _ _ others => others.height
  | .object _ inner others => max (inner.height + 1) others.height

/-- The fields of two trees, those of the first one first. -/
def append : Tree → Tree → Tree
  | .nil, behind => behind
  | .leaf id value others, behind => .leaf id value (others.append behind)
  | .object id inner others, behind => .object id inner (others.append behind)

theorem append_nil (tree : Tree) : tree.append .nil = tree := by
  induction tree with
  | nil => rfl
  | leaf id value others hypothesis => rw [append, hypothesis]
  | object id inner others _ hypothesis => rw [append, hypothesis]

theorem encode_append (tree behind : Tree) :
    (tree.append behind).encode = tree.encode ++ behind.encode := by
  induction tree with
  | nil => rfl
  | leaf id value others hypothesis =>
      rw [append, encode, encode, hypothesis, List.append_assoc]
  | object id inner others _ hypothesis =>
      rw [append, encode, encode, hypothesis, List.append_assoc]

theorem encode_append_leaf (tree : Tree) (id : UInt32) (value : Leaf) :
    (tree.append (.leaf id value .nil)).encode = tree.encode ++ value.field id := by
  rw [encode_append, encode, encode, List.append_nil]

theorem encode_append_object (tree : Tree) (id : UInt32) (inner : Tree) :
    (tree.append (.object id inner .nil)).encode =
      tree.encode ++ Bytes.ofDelimitedField id inner.encode := by
  rw [encode_append, encode, encode, List.append_nil]

end Tree

namespace Writer

/-! ## Steps -/

/-- A step that a writer can be asked to take. -/
inductive Operation where
  | key (id : UInt32)
  | unsigned (value : UInt64)
  | integer (value : Int64)
  | boolean (value : Bool)
  | text (value : String)
  | blob (value : Bytes)
  | ordinal (value : UInt64)
  | startArray
  | endArray
  | startObject
  | endObject
  | takeBytes

namespace Operation

/-- Takes the step, which has a result when it is the one that takes the output. -/
def run : Operation → Writing (Option Bytes)
  | key id => (fun _ => none) <$> Writer.key id
  | unsigned value => (fun _ => none) <$> Writer.unsigned value
  | integer value => (fun _ => none) <$> Writer.integer value
  | boolean value => (fun _ => none) <$> Writer.boolean value
  | text value => (fun _ => none) <$> Writer.text value
  | blob value => (fun _ => none) <$> Writer.blob value
  | ordinal value => (fun _ => none) <$> Writer.ordinal value
  | startArray => (fun _ => none) <$> Writer.startArray
  | endArray => (fun _ => none) <$> Writer.endArray
  | startObject => (fun _ => none) <$> Writer.startObject
  | endObject => (fun _ => none) <$> Writer.endObject
  | takeBytes => some <$> Writer.takeBytes

/-- The leaf that a step writes.  Signed integers are never written. -/
def leaf? : Operation → Option Leaf
  | unsigned value | ordinal value => some (.number value.toNat)
  | boolean value => some (.number value.toNat)
  | text value => some (.body (Bytes.ofText value))
  | blob value => some (.body value)
  | _ => none

/-- The steps around the elements of an array, for which nothing is written. -/
def IsArray : Operation → Prop
  | startArray | endArray => True
  | _ => False

theorem leaf?_of_isArray {operation : Operation} (array : operation.IsArray) :
    operation.leaf? = none := by
  cases operation <;> first | rfl | cases array

/-- The steps that write nothing and open or close nothing. -/
def IsQuiet : Operation → Prop
  | key _ => True
  | operation => operation.IsArray

end Operation

/-! ## Spelling -/

/-- Some steps spell some fields of an object, from a pending key to a pending key. -/
inductive Spells : Option UInt32 → List Operation → Tree → Option UInt32 → Prop where
  | nil (pending : Option UInt32) : Spells pending [] .nil pending
  | key {pending last : Option UInt32} {id : UInt32} {rest : List Operation} {tree : Tree}
      (others : Spells (some id) rest tree last) : Spells pending (.key id :: rest) tree last
  | array {pending last : Option UInt32} {operation : Operation} {rest : List Operation}
      {tree : Tree} (array : operation.IsArray) (others : Spells pending rest tree last) :
      Spells pending (operation :: rest) tree last
  | leaf {last : Option UInt32} {id : UInt32} {operation : Operation} {leaf : Leaf}
      {rest : List Operation} {tree : Tree} (written : operation.leaf? = some leaf)
      (others : Spells (some id) rest tree last) :
      Spells (some id) (operation :: rest) (.leaf id leaf tree) last
  | object {closing last : Option UInt32} {id : UInt32} {inner rest : List Operation}
      {children tree : Tree} (inside : Spells none inner children closing)
      (others : Spells (some id) rest tree last) :
      Spells (some id) (.startObject :: (inner ++ .endObject :: rest)) (.object id children tree)
        last

theorem Spells.append {pending between last : Option UInt32} {first second : List Operation}
    {tree behind : Tree} (spelled : Spells pending first tree between)
    (others : Spells between second behind last) :
    Spells pending (first ++ second) (tree.append behind) last := by
  induction spelled with
  | nil => exact others
  | key _ hypothesis => exact .key (hypothesis others)
  | array array _ hypothesis => exact .array array (hypothesis others)
  | leaf written _ hypothesis => exact .leaf written (hypothesis others)
  | @object _ _ _ inner rest _ _ inside _ _ hypothesis =>
      rw [List.cons_append, List.append_assoc, List.cons_append]
      exact .object inside (hypothesis others)

/-- Up to the first end without a start, only one tree is spelled. -/
theorem Spells.unique {pending last : Option UInt32} {operations : List Operation} {tree : Tree}
    (spelled : Spells pending operations tree last) {other : Option UInt32}
    {others rest behind : List Operation} {again : Tree}
    (respelled : Spells pending others again other)
    (same : operations ++ .endObject :: rest = others ++ .endObject :: behind) :
    operations = others ∧ tree = again ∧ last = other ∧ rest = behind := by
  induction spelled generalizing other others rest behind again with
  | nil =>
      cases respelled with
      | nil =>
          cases same
          exact ⟨rfl, rfl, rfl, rfl⟩
      | key | object => cases (List.cons.inj same).1
      | array array =>
          cases (List.cons.inj same).1
          cases array
      | leaf written =>
          cases (List.cons.inj same).1
          cases written
  | key _ hypothesis =>
      cases respelled with
      | nil | object => cases (List.cons.inj same).1
      | key respelled =>
          obtain ⟨head, tail⟩ := List.cons.inj same
          cases head
          obtain ⟨rfl, rfl, rfl, rfl⟩ := hypothesis respelled tail
          exact ⟨rfl, rfl, rfl, rfl⟩
      | array array =>
          cases (List.cons.inj same).1
          cases array
      | leaf written =>
          cases (List.cons.inj same).1
          cases written
  | array array _ hypothesis =>
      cases respelled with
      | nil | key | object =>
          cases (List.cons.inj same).1
          cases array
      | array _ respelled =>
          obtain ⟨head, tail⟩ := List.cons.inj same
          cases head
          obtain ⟨rfl, rfl, rfl, rfl⟩ := hypothesis respelled tail
          exact ⟨rfl, rfl, rfl, rfl⟩
      | leaf written =>
          cases (List.cons.inj same).1
          cases (Operation.leaf?_of_isArray array).symm.trans written
  | leaf written _ hypothesis =>
      cases respelled with
      | nil | key | object =>
          cases (List.cons.inj same).1
          cases written
      | array array =>
          cases (List.cons.inj same).1
          cases (Operation.leaf?_of_isArray array).symm.trans written
      | leaf rewritten respelled =>
          obtain ⟨head, tail⟩ := List.cons.inj same
          cases head
          cases written.symm.trans rewritten
          obtain ⟨rfl, rfl, rfl, rfl⟩ := hypothesis respelled tail
          exact ⟨rfl, rfl, rfl, rfl⟩
  | @object _ _ _ inner operations _ _ _ _ insideHypothesis hypothesis =>
      cases respelled with
      | nil | key => cases (List.cons.inj same).1
      | array array =>
          cases (List.cons.inj same).1
          cases array
      | leaf written =>
          cases (List.cons.inj same).1
          cases written
      | @object _ _ _ innerAgain again _ _ inside respelled =>
          have tail : inner ++ .endObject :: (operations ++ .endObject :: rest) =
              innerAgain ++ .endObject :: (again ++ .endObject :: behind) := by
            simpa using (List.cons.inj same).2
          obtain ⟨rfl, rfl, rfl, further⟩ := insideHypothesis inside tail
          obtain ⟨rfl, rfl, rfl, rfl⟩ := hypothesis respelled further
          exact ⟨rfl, rfl, rfl, rfl⟩

end Writer
end SecurityKey
