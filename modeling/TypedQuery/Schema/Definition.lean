import TypedQuery.Schema.Error
import TypedQuery.Schema.Token.Lexer

/-!
# Definitions of a source

A source is a sequence of definitions of object types and of the query root:

    document    := definition*
    definition  := description? type_def | schema_def
    schema_def  := "schema" "{" "query" ":" Name "}"
    type_def    := "type" Name "{" field_def+ "}"
    field_def   := description? Name ":" type_ref
    type_ref    := (Name | "[" type_ref "]") "!"?

`Document.ofStream` reads the definitions up to the first error and keeps those before it: a
definition counts as soon as it is closed. Every reader here takes the stream from its first token
and gives the rest after what it has read. A token is taken only together with a look at the next
one (`Stream.take`), so a fault of the text is reported before anything that is checked later.

Main statements: every reader leaves a shorter stream (`fieldDef_length_lt`,
`definition_length_lt`), which is why reading ends.
-/

namespace TypedQuery

/-- The declared query root. -/
structure RootDecl where
  typeName : String
  /-- Where the type is named. -/
  location : Location
  /-- Where the schema definition starts. -/
  declaredAt : Location
  deriving DecidableEq

/-- A definition of a source. -/
inductive Definition where
  | object (type : ObjectType)
  | root (decl : RootDecl)
  deriving DecidableEq

namespace Stream

/-- The position of the next token, of the end, or of the fault. -/
def position : Stream → Position
  | .stop p => p
  | .fault _ p => p
  | .next t _ => t.position

/-- The next lexeme. -/
def head? : Stream → Option Lexeme
  | .next t _ => some t.lexeme
  | _ => none

/-- The stream after its next token. -/
def tail : Stream → Stream
  | .next _ rest => rest
  | s => s

/-- Whether the text ends here. -/
def isStop : Stream → Bool
  | .stop _ => true
  | _ => false

theorem length_tail_le (s : Stream) : s.tail.length ≤ s.length := by
  cases s <;> simp [tail, length]

/-- Passes on to `rest` after a token has been taken. A fault that comes next is raised here. -/
def take (source : String) (rest : Stream) : Except SchemaError Unit :=
  match rest with
  | .fault why p => .error (.atPosition source p (.lexical why))
  | _ => .ok ()

end Stream

namespace Document

variable (source : String)

/-- The location of a position in the source. -/
def locate (p : Position) : Location := ⟨source, p.line, p.column⟩

/-- An error at the next token. -/
def failAt {α : Type} (s : Stream) (cause : SchemaError.Cause) : Except SchemaError α :=
  .error (.atPosition source s.position cause)

/-- Takes the punctuator `p`. -/
def punct (p : Punct) (s : Stream) : Except SchemaError Stream :=
  match s with
  | .next ⟨.punct q, at_⟩ rest =>
    if p = q then do
      Stream.take source rest
      return rest
    else .error (.atPosition source at_ (.expected ("'" ++ p.text ++ "'") (some (.punct q))))
  | s => failAt source s (.expected ("'" ++ p.text ++ "'") s.head?)

/-- Takes a name of any form, described as `what`. -/
def anyName (what : String) (s : Stream) : Except SchemaError ((String × Position) × Stream) :=
  match s with
  | .next ⟨.name n, at_⟩ rest => do
    Stream.take source rest
    return ((n, at_), rest)
  | s => failAt source s (.expected what s.head?)

/-- Takes a name that is not reserved. -/
def name (what : String) (s : Stream) : Except SchemaError ((String × Position) × Stream) := do
  let ((n, p), s) ← anyName source what s
  if n.startsWith "__" then .error (.atPosition source p (.reservedName n))
  else return ((n, p), s)

/-- Takes a description, if there is one. -/
def description (s : Stream) : Except SchemaError (Option String × Stream) :=
  match s with
  | .next ⟨.string v, _⟩ rest | .next ⟨.block v, _⟩ rest => do
    Stream.take source rest
    return (some v, rest)
  | s => return (none, s)

/-- Takes the `!` that may follow a type. -/
def bang (r : TypeRef) (s : Stream) : Except SchemaError (TypeRef × Stream) :=
  match s with
  | .next ⟨.punct .bang, _⟩ rest => do
    Stream.take source rest
    return (.nonNull r, rest)
  | s => return (r, s)

/-- Reads a type reference. -/
def typeRef : Stream → Except SchemaError (TypeRef × Stream)
  | .next ⟨.punct .bracketL, _⟩ rest => do
    Stream.take source rest
    let (inner, s) ← typeRef rest
    let s ← punct source .bracketR s
    bang source (.list inner) s
  | s => do
    let ((n, _), s) ← name source "a type" s
    bang source (.named n) s

/-- Reads a field. -/
def fieldDef (s : Stream) : Except SchemaError (Field × Stream) := do
  let (text, s) ← description source s
  let ((n, p), s) ← name source "a field name" s
  if s.head? = some (.punct .parenL) then failAt source s .arguments
  else
    let s ← punct source .colon s
    let (type, s) ← typeRef source s
    if s.head? = some (.punct .at) then failAt source s .directive
    else if s.head? = some (.punct .equals) then failAt source s .defaultValue
    else return (⟨n, type, text, some (locate source p)⟩, s)

/-! ## Readers leave a shorter stream -/

theorem punct_length_lt {p : Punct} {s r : Stream} (h : punct source p s = .ok r) :
    r.length < s.length := by
  unfold punct at h
  split at h
  · split at h
    · rename_i q at_ rest _
      simp only [bind, Except.bind, pure, Except.pure] at h
      split at h
      · cases h
      · cases h; simp [Stream.length]
    · cases h
  · cases h

theorem anyName_length_lt {what : String} {s r : Stream} {n : String × Position}
    (h : anyName source what s = .ok (n, r)) : r.length < s.length := by
  unfold anyName at h
  split at h
  · simp only [bind, Except.bind, pure, Except.pure] at h
    split at h
    · cases h
    · cases h; simp [Stream.length]
  · cases h

theorem name_length_lt {what : String} {s r : Stream} {n : String × Position}
    (h : name source what s = .ok (n, r)) : r.length < s.length := by
  unfold name at h
  simp only [bind, Except.bind, pure, Except.pure] at h
  split at h
  · cases h
  · rename_i v hv
    obtain ⟨⟨m, q⟩, t⟩ := v
    simp only at h
    split at h
    · cases h
    · cases h; exact anyName_length_lt source hv

theorem description_length_le {s r : Stream} {d : Option String}
    (h : description source s = .ok (d, r)) : r.length ≤ s.length := by
  unfold description at h
  split at h
  · simp only [bind, Except.bind, pure, Except.pure] at h
    split at h
    · cases h
    · cases h; simp [Stream.length]
  · simp only [bind, Except.bind, pure, Except.pure] at h
    split at h
    · cases h
    · cases h; simp [Stream.length]
  · cases h; exact Nat.le_refl _

theorem bang_length_le {t u : TypeRef} {s r : Stream} (h : bang source t s = .ok (u, r)) :
    r.length ≤ s.length := by
  unfold bang at h
  split at h
  · simp only [bind, Except.bind, pure, Except.pure] at h
    split at h
    · cases h
    · cases h; simp [Stream.length]
  · cases h; exact Nat.le_refl _

theorem typeRef_length_lt {s r : Stream} {t : TypeRef} (h : typeRef source s = .ok (t, r)) :
    r.length < s.length := by
  fun_induction typeRef source s generalizing t r with
  | case1 _ rest ih =>
    simp only [bind, Except.bind] at h
    split at h
    · cases h
    · split at h
      · cases h
      · rename_i v hv
        obtain ⟨inner, s₁⟩ := v
        simp only at h
        split at h
        · cases h
        · rename_i s₂ hp
          have h₁ := ih hv
          have h₂ := punct_length_lt source hp
          have h₃ := bang_length_le source h
          simp only [Stream.length]
          omega
  | case2 s _ =>
    simp only [bind, Except.bind] at h
    split at h
    · cases h
    · rename_i v hv
      obtain ⟨⟨n, p⟩, s₁⟩ := v
      simp only at h
      have h₁ := name_length_lt source hv
      have h₂ := bang_length_le source h
      omega

theorem fieldDef_length_lt {s r : Stream} {f : Field} (h : fieldDef source s = .ok (f, r)) :
    r.length < s.length := by
  unfold fieldDef at h
  simp only [bind, Except.bind] at h
  split at h
  · cases h
  · rename_i v hv
    obtain ⟨d, s₁⟩ := v
    simp only at h
    split at h
    · cases h
    · rename_i v hn
      obtain ⟨⟨n, p⟩, s₂⟩ := v
      simp only at h
      split at h
      · cases h
      · split at h
        · cases h
        · rename_i s₃ hc
          split at h
          · cases h
          · rename_i v ht
            obtain ⟨t, s₄⟩ := v
            simp only at h
            split at h
            · cases h
            · split at h
              · cases h
              · cases h
                have h₁ := description_length_le source hv
                have h₂ := name_length_lt source hn
                have h₃ := punct_length_lt source hc
                have h₄ := typeRef_length_lt source ht
                omega

/-! ## Types, the root, and whole documents -/

/-- Reads the fields of the type `type` up to its closing brace. `seen` are the fields before,
last first. -/
def fields (type : String) (seen : List Field) (s : Stream) :
    Except SchemaError (List Field × Stream) :=
  match _h : fieldDef source s with
  | .error e => .error e
  | .ok (f, s') =>
    if seen.any (fun g => g.name == f.name) then
      .error ⟨.fieldTwice type f.name, f.location⟩
    else if s'.head? = some (.punct .braceR) then do
      Stream.take source s'.tail
      return ((f :: seen).reverse, s'.tail)
    else if s'.isStop then failAt source s' (.unclosedType type)
    else fields type (f :: seen) s'
termination_by s.length
decreasing_by exact fieldDef_length_lt source _h

/-- Reads what follows the keyword `type`, which stood at `start`. -/
def objectType (text : Option String) (start : Position) (s : Stream) :
    Except SchemaError (ObjectType × Stream) := do
  let ((n, _), s) ← name source "a type name" s
  if s.head? = some (.punct .at) then failAt source s .directive
  else if s.head? = some (.name "implements") then failAt source s .interfaces
  else
    let s ← punct source .braceL s
    let (fs, s) ← fields source n [] s
    return (⟨n, fs, text, some (locate source start)⟩, s)

/-- Reads `query: Name`; `seen` tells that the block has one already. -/
def operation (seen : Bool) (s : Stream) : Except SchemaError ((String × Position) × Stream) := do
  let ((op, p), s) ← anyName source "a root operation" s
  if op ≠ "query" then .error (.atPosition source p (.rootOperation op))
  else if seen then .error (.atPosition source p (.operationTwice op))
  else
    let s ← punct source .colon s
    name source "a type name" s

/-- Reads what follows the keyword `schema`, which stood at `start`. The block names the query root
once, so anything but its closing brace after that is an error. -/
def rootBlock (start : Position) (s : Stream) : Except SchemaError (RootDecl × Stream) := do
  let s ← punct source .braceL s
  let ((n, p), s) ← operation source false s
  if s.head? = some (.punct .braceR) then
    Stream.take source s.tail
    return (⟨n, locate source p, locate source start⟩, s.tail)
  else
    let (_, s) ← operation source true s
    failAt source s (.operationTwice "query")

/-- Keywords of definitions that the schema language has and this reader does not support. -/
def unsupported : List String :=
  ["enum", "interface", "union", "input", "scalar", "directive", "extend"]

/-- Reads one definition. -/
def definition (s : Stream) : Except SchemaError (Definition × Stream) := do
  let (text, s) ← description source s
  match s with
  | .next ⟨.name keyword, p⟩ rest =>
    if keyword = "type" then do
      Stream.take source rest
      let (t, s) ← objectType source text p rest
      return (.object t, s)
    else if keyword = "schema" then
      if text.isSome then .error (.atPosition source p .describedSchema)
      else do
        Stream.take source rest
        let (r, s) ← rootBlock source p rest
        return (.root r, s)
    else if keyword ∈ unsupported then .error (.atPosition source p (.unsupported keyword))
    else .error (.atPosition source p (.expected "a type definition" (some (.name keyword))))
  | s => failAt source s (.expected "a type definition" s.head?)

theorem fields_length_lt {type : String} {seen fs : List Field} {s r : Stream}
    (h : fields source type seen s = .ok (fs, r)) : r.length < s.length := by
  fun_induction fields source type seen s with
  | case1 => cases h
  | case2 => cases h
  | case3 seen s f s' hf _ _ =>
    have hlt := fieldDef_length_lt source hf
    have hle := Stream.length_tail_le s'
    simp only [bind, Except.bind, pure, Except.pure] at h
    split at h
    · cases h
    · cases h; omega
  | case4 => cases h
  | case5 seen s f s' hf _ _ _ ih =>
    have hlt := fieldDef_length_lt source hf
    have := ih h
    omega

theorem objectType_length_lt {text : Option String} {start : Position} {s r : Stream}
    {t : ObjectType} (h : objectType source text start s = .ok (t, r)) : r.length < s.length := by
  unfold objectType at h
  simp only [bind, Except.bind] at h
  split at h
  · cases h
  · rename_i v hn
    obtain ⟨⟨n, p⟩, s₁⟩ := v
    simp only at h
    split at h
    · cases h
    · split at h
      · cases h
      · split at h
        · cases h
        · rename_i s₂ hb
          split at h
          · cases h
          · rename_i v hf
            obtain ⟨fs, s₃⟩ := v
            cases h
            have h₁ := name_length_lt source hn
            have h₂ := punct_length_lt source hb
            have h₃ := fields_length_lt source hf
            dsimp only
            omega

theorem operation_length_lt {seen : Bool} {s r : Stream} {n : String × Position}
    (h : operation source seen s = .ok (n, r)) : r.length < s.length := by
  unfold operation at h
  simp only [bind, Except.bind] at h
  split at h
  · cases h
  · rename_i v ho
    obtain ⟨⟨op, p⟩, s₁⟩ := v
    simp only at h
    split at h
    · cases h
    · split at h
      · cases h
      · split at h
        · cases h
        · rename_i s₂ hc
          have h₁ := anyName_length_lt source ho
          have h₂ := punct_length_lt source hc
          have h₃ := name_length_lt source h
          omega

theorem rootBlock_length_lt {start : Position} {s r : Stream} {d : RootDecl}
    (h : rootBlock source start s = .ok (d, r)) : r.length < s.length := by
  unfold rootBlock at h
  simp only [bind, Except.bind] at h
  split at h
  · cases h
  · rename_i s₁ hb
    split at h
    · cases h
    · rename_i v ho
      obtain ⟨⟨n, p⟩, s₂⟩ := v
      simp only at h
      split at h
      · split at h
        · cases h
        · cases h
          have h₁ := punct_length_lt source hb
          have h₂ := operation_length_lt source ho
          have h₃ := Stream.length_tail_le s₂
          omega
      · split at h
        · cases h
        · simp [failAt] at h

theorem definition_length_lt {s r : Stream} {d : Definition}
    (h : definition source s = .ok (d, r)) : r.length < s.length := by
  unfold definition at h
  simp only [bind, Except.bind] at h
  split at h
  · cases h
  · rename_i v hd
    obtain ⟨text, s₁⟩ := v
    have h₁ := description_length_le source hd
    simp only at h
    split at h
    · rename_i keyword p rest
      simp only [Stream.length] at h₁
      split at h
      · split at h
        · cases h
        · split at h
          · cases h
          · rename_i v ht
            obtain ⟨t, s₂⟩ := v
            cases h
            have := objectType_length_lt source ht
            dsimp only
            omega
      · split at h
        · split at h
          · cases h
          · split at h
            · cases h
            · split at h
              · cases h
              · rename_i v hr
                obtain ⟨b, s₂⟩ := v
                cases h
                have := rootBlock_length_lt source hr
                dsimp only
                omega
        · split at h <;> cases h
    · simp [failAt] at h

/-- How a document ends: at the end of its text, or with an error. -/
inductive Ending where
  | complete (at_ : Position)
  | failed (error : SchemaError)
  deriving DecidableEq

/-- Reads definitions up to the end of the stream or to the first error. -/
def definitions (s : Stream) : List Definition × Ending :=
  match s with
  | .stop p => ([], .complete p)
  | s =>
    match _h : definition source s with
    | .error e => ([], .failed e)
    | .ok (d, rest) =>
      let (ds, ending) := definitions rest
      (d :: ds, ending)
termination_by s.length
decreasing_by exact definition_length_lt source _h

/-- The definitions of a stream, and how it ends. -/
def ofStream (s : Stream) : List Definition × Ending :=
  match Stream.take source s with
  | .error e => ([], .failed e)
  | .ok _ => definitions source s

/-- The definitions of a text, and how it ends. -/
def ofText (text : String) : List Definition × Ending := ofStream source (Stream.ofText text)

end Document

end TypedQuery
