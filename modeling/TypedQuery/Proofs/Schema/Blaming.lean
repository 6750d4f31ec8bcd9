import TypedQuery.Proofs.Schema.Draft
import TypedQuery.Proofs.Schema.Splitting

/-!
# Which token is blamed

A text is malformed from its first token on that no sentence of the grammar has there, and this
token is where the error is placed. The end of the text counts as a token.

* `Grammar.Viable`: symbols that begin a sentence.
* `Document.Blames`: a reader fails at a token, the tokens before it begin a sentence, and every
  stream with the same tokens up to that one fails in the same way.
* `Document.Blames.of_reads`: a part is blamed after the tokens that lead up to it. With it each
  reader is a list of the places where it fails (`typeRef_blames` up to `definition_blames`).
* `Collector.addSource_blames`: the token that is blamed for a malformed source.
-/

namespace TypedQuery

/-! ## Viable beginnings -/

/-- The lexemes of a stream and, as `none`, its end. -/
def Stream.symbols (s : Stream) : List (Option Lexeme) := s.lexemes.map some ++ [none]

/-- The symbols begin a sentence of the grammar, or are all of it. -/
def Grammar.Viable (ts : List (Option Lexeme)) : Prop :=
  ∃ d : Draft, d.Permitted ∧ ts <+: d.lexemes.map some ++ [none]

namespace Stream

variable {s r : Stream} {ls : List Lexeme}

theorem exists_symbols (s : Stream) : ∃ ts, s.symbols = s.head? :: ts := by
  cases s with
  | stop p => exact ⟨[], rfl⟩
  | fault why p => exact ⟨[], rfl⟩
  | next t rest => exact ⟨rest.symbols, rfl⟩

theorem Reads.symbols (h : Reads ls s r) : s.symbols = ls.map some ++ r.symbols := by
  rw [Stream.symbols, h.lexemes, List.map_append, List.append_assoc]
  rfl

theorem Reads.length_lt_symbols (h : Reads ls s r) : ls.length < s.symbols.length := by
  obtain ⟨ts, hts⟩ := exists_symbols r
  rw [h.symbols, hts]
  simp

theorem Reads.take_symbols (h : Reads ls s r) :
    s.symbols.take ls.length = ls.map some ∧
      s.symbols.take (ls.length + 1) = ls.map some ++ [r.head?] := by
  obtain ⟨ts, hts⟩ := exists_symbols r
  rw [h.symbols, hts]
  constructor
  · rw [← List.length_map some, List.take_left]
  · rw [← List.length_map some, List.take_length_add_append]
    rfl

theorem isFault_of_isComplete (h : s.isComplete = true) : s.isFault = false := by
  cases s with
  | stop p => rfl
  | fault why p => cases h
  | next t rest => rfl

theorem isStop_eq_isNone (h : s.isComplete = true) : s.isStop = s.head?.isNone := by
  cases s with
  | stop p => rfl
  | fault why p => cases h
  | next t rest => rfl

theorem exists_next {l : Lexeme} (hs : s.isComplete = true) (h : s.head? = some l) :
    ∃ p rest, s = .next ⟨l, p⟩ rest ∧ rest.isFault = false ∧ rest.isComplete = true := by
  cases s with
  | stop p => cases h
  | fault why p => cases h
  | next t rest =>
    cases h
    exact ⟨t.position, rest, rfl, isFault_of_isComplete hs, hs⟩

/-- Streams with the same symbols at their beginning can be read alike. -/
theorem exists_reads_of_isPrefix {a : Option Lexeme} (hs : s.isComplete = true)
    (h : ls.map some ++ [a] <+: s.symbols) :
    ∃ r, Reads ls s r ∧ r.isComplete = true ∧ r.head? = a := by
  induction ls generalizing s with
  | nil =>
    obtain ⟨ts, hts⟩ := exists_symbols s
    rw [hts] at h
    exact ⟨s, rfl, hs, (List.cons_prefix_cons.1 h).1.symm⟩
  | cons l ls ih =>
    obtain ⟨ts, hts⟩ := exists_symbols s
    rw [hts] at h
    obtain ⟨p, rest, rfl, hfault, hrest⟩ := exists_next hs (List.cons_prefix_cons.1 h).1.symm
    obtain rfl : rest.symbols = ts := (List.cons.inj hts).2
    obtain ⟨r, hr, hc, ha⟩ := ih hrest (List.cons_prefix_cons.1 h).2
    exact ⟨r, ⟨p, rest, rfl, hfault, hr⟩, hc, ha⟩

/-- Every sentence is that of a stream. -/
theorem exists_reads (ls : List Lexeme) : ∃ s, Reads ls s (.stop .start) := by
  induction ls with
  | nil => exact ⟨_, rfl⟩
  | cons l ls ih =>
    obtain ⟨s, hs⟩ := ih
    refine ⟨.next ⟨l, .start⟩ s, .start, s, rfl, isFault_of_isComplete ?_, hs⟩
    rw [hs.isComplete]
    rfl

end Stream

/-! ## Blaming a token -/

namespace Document

open TypedQuery.Stream TypedQuery.Grammar

variable {source : String} {s m r : Stream} {e : SchemaError}

/-- What failing with an error means for a reader of a source. -/
abbrev Failure := String → Stream → SchemaError → Prop

/-- The tokens `ls` are read, and the failure comes at the token after them. It always does so with
the same cause if the next token is the same. -/
def FailsAfter (F : Failure) (ls : List Lexeme) (next : Option Lexeme)
    (cause : SchemaError.Cause) : Prop :=
  ∀ source s r, Reads ls s r → r.isComplete = true → r.head? = next →
    F source s (.atPosition source r.position cause)

/-- A failure is placed at a token, and those before it begin a sentence of `L`. -/
def Blames (F : Failure) (L : List Lexeme → Prop) (s : Stream) : Prop :=
  ∃ ls r cause, Reads ls s r ∧ (∃ rest, L (ls ++ rest)) ∧ FailsAfter F ls r.head? cause

section

variable {F G : Failure} {L M : List Lexeme → Prop} {xs : List Lexeme}

/-- The first token of a stream is blamed. -/
theorem blames_head (cause : SchemaError.Cause) (hL : ∃ ls, L ls)
    (hF : ∀ source s', s'.isComplete = true → s'.head? = s.head? →
      F source s' (.atPosition source s'.position cause)) : Blames F L s := by
  refine ⟨[], s, cause, rfl, hL, fun source s' r hr hc hnext => ?_⟩
  obtain rfl : s' = r := hr
  exact hF source s' hc hnext

/-- What is blamed after the tokens `xs` is blamed in the whole. The part may look at what comes
first in it, which is the same in all the streams. -/
theorem Blames.of_reads (h : Blames G M m) (hread : Reads xs s m)
    (hL : ∀ ls, M ls → ∃ rest, L (xs ++ (ls ++ rest)))
    (hF : ∀ source s' m' e, Reads xs s' m' → m'.isComplete = true → m'.head? = m.head? →
      G source m' e → F source s' e) : Blames F L s := by
  obtain ⟨ls, r, cause, hr, ⟨rest, hrest⟩, hfails⟩ := h
  refine ⟨xs ++ ls, r, cause, hread.append hr, ?_, fun source s' r' hread' hc hnext => ?_⟩
  · obtain ⟨more, hmore⟩ := hL _ hrest
    exact ⟨rest ++ more, by simpa only [List.append_assoc] using hmore⟩
  · obtain ⟨m', hx, hm'⟩ := reads_append.1 hread'
    refine hF source s' m' _ hx (hm'.isComplete.trans hc) ?_ (hfails source m' r' hm' hc hnext)
    rw [hm'.head?, hr.head?, hnext]

end

/-! ## Single tokens -/

theorem take_ne_error (hs : s.isComplete = true) : Stream.take source s ≠ .error e := by
  intro h
  rw [(take_eq_ok (u := ())).2 (isFault_of_isComplete hs)] at h
  cases h

/-- A reader that stops after a token does not fail. -/
theorem take_bind_ne_error {α : Type} {a : α} (hs : s.isComplete = true) :
    (do Stream.take source s; return a) ≠ .error e := by
  intro h
  rcases bind_eq_error.1 h with h | ⟨_, -, h⟩
  · exact take_ne_error hs h
  · cases h

theorem punct_blames {p : Punct} (hs : s.isComplete = true) (h : punct source p s = .error e) :
    Blames (fun source s e => punct source p s = .error e) (· = [.punct p]) s := by
  -- Otherwise the punctuator is read, for no fault follows it.
  have hhead : s.head? ≠ some (.punct p) := by
    intro hp
    obtain ⟨q, rest, rfl, hfault, -⟩ := exists_next hs hp
    rw [punct_eq_ok.2 ⟨q, rest, rfl, hfault, rfl⟩] at h
    cases h
  refine blames_head (.expected ("'" ++ p.text ++ "'") s.head?) ⟨_, rfl⟩ ?_
  intro source s' _ hs'
  rw [← hs'] at hhead ⊢
  unfold punct
  split
  · rename_i q at_ rest
    rw [if_neg fun hq => hhead (by rw [hq]; rfl)]
    rfl
  · rfl

theorem anyName_of_head? {what : String} (h : ∀ n, s.head? ≠ some (.name n)) :
    anyName source what s = .error (.atPosition source s.position (.expected what s.head?)) := by
  unfold anyName
  split
  · exact absurd rfl (h _)
  · rfl

/-- The sentences that are a name which is not reserved. -/
def IsPlainName (ls : List Lexeme) : Prop := ∃ n, [.name n] = ls ∧ ¬ IsReserved n

theorem isReserved_a : ¬ IsReserved "a" := by simp [IsReserved]

theorem name_blames {what : String} (hs : s.isComplete = true)
    (h : name source what s = .error e) :
    Blames (fun source s e => name source what s = .error e) IsPlainName s := by
  by_cases hname : ∃ n, s.head? = some (.name n)
  · obtain ⟨n, hn⟩ := hname
    have hreserved : n.startsWith "__" = true := by
      refine Decidable.byContradiction fun hfree => ?_
      obtain ⟨p, rest, rfl, hfault, -⟩ := exists_next hs hn
      rw [name_eq_ok.2 ⟨rfl, hfault, hfree⟩] at h
      cases h
    refine blames_head (.reservedName n) ⟨_, "a", rfl, isReserved_a⟩ ?_
    intro source s' hs' hhead
    obtain ⟨p, rest, rfl, hfault, -⟩ := exists_next hs' (hhead.trans hn)
    unfold name
    rw [anyName_eq_ok.2 ⟨rfl, hfault⟩, ok_bind]
    simp only [hreserved, if_true]
    rfl
  · refine blames_head (.expected what s.head?) ⟨_, "a", rfl, isReserved_a⟩ ?_
    intro source s' _ hhead
    unfold name
    rw [anyName_of_head? fun n hn => hname ⟨n, hhead ▸ hn⟩, hhead]
    rfl

/-! ## Types and fields -/

/-- The sentences of type references. -/
def IsReference (ls : List Lexeme) : Prop := ∃ x : Reference, x.lexemes = ls ∧ ¬ IsReserved x.target

/-- The sentences of fields. -/
def IsField (ls : List Lexeme) : Prop := ∃ x : FieldDef, x.lexemes = ls ∧ x.Permitted

theorem bang_ne_error {t : TypeRef} (hs : s.isComplete = true) : bang source t s ≠ .error e := by
  intro h
  unfold bang at h
  split at h
  · exact absurd h (take_bind_ne_error hs)
  · cases h

theorem typeRef_of_bracket (h : Reads [.punct .bracketL] s m) : typeRef source s = (do
    let (t, k) ← typeRef source m
    let k ← punct source .bracketR k
    bang source (.list t) k) := by
  obtain ⟨p, m, rfl, hm, rfl⟩ := h
  have htake : Stream.take source m = .ok () := take_eq_ok.2 hm
  rw [typeRef, htake, ok_bind]

theorem typeRef_blames (hs : s.isComplete = true) (h : typeRef source s = .error e) :
    Blames (fun source s e => typeRef source s = .error e) IsReference s := by
  fun_induction typeRef source s with
  | case1 p rest ih =>
    have hrest : rest.isComplete = true := hs
    have hopen : Reads [.punct .bracketL] (.next ⟨.punct .bracketL, p⟩ rest) rest :=
      ⟨p, rest, rfl, isFault_of_isComplete hrest, rfl⟩
    simp only [bind_eq_error, Prod.exists] at h
    rcases h with h | ⟨_, -, h | ⟨t, m, ht, h | ⟨k, hk, h⟩⟩⟩
    · exact absurd h (take_ne_error hrest)
    · refine (ih hrest h).of_reads hopen ?_ fun source s' m' e hread _ _ he => ?_
      · rintro _ ⟨x, rfl, hx⟩
        exact ⟨[.punct .bracketR], .list x false, by simp [Reference.lexemes, Reference.bangs], hx⟩
      · simp only [typeRef_of_bracket hread, he, error_bind]
    · obtain ⟨x, hx, -, hfree, hbang⟩ := typeRef_eq_ok.1 ht
      have hm : m.isComplete = true := hx.isComplete.symm.trans hrest
      refine (punct_blames hm h).of_reads (hopen.append hx) ?_
        fun source s' m' e hread _ hhead he => ?_
      · rintro _ rfl
        exact ⟨[], .list x false, by simp [Reference.lexemes, Reference.bangs], hfree⟩
      · obtain ⟨k', hopen', hx'⟩ := reads_append.1 hread
        have ht' : typeRef source k' = .ok (x.ref, m') :=
          typeRef_eq_ok.2 ⟨x, hx', rfl, hfree, by rwa [hhead]⟩
        simp only [typeRef_of_bracket hopen', ht', ok_bind, he, error_bind]
    · obtain ⟨x, hx, -⟩ := typeRef_eq_ok.1 ht
      have hclose := punct_eq_ok.1 hk
      exact absurd h (bang_ne_error (hclose.isComplete.symm.trans (hx.isComplete.symm.trans hrest)))
  | case2 s hbracket =>
    have hhead : s.head? ≠ some (.punct .bracketL) := by
      intro hh
      obtain ⟨p, rest, rfl, -⟩ := exists_next hs hh
      exact hbracket p rest rfl
    simp only [bind_eq_error, Prod.exists] at h
    rcases h with h | ⟨n, p, m, hn, h⟩
    · have hnil : Reads [] s s := rfl
      refine (name_blames hs h).of_reads hnil ?_ fun source s' m' e hread _ hhead' he => ?_
      · rintro _ ⟨n, rfl, hn⟩
        exact ⟨[], .name n false, by simp [Reference.lexemes, Reference.bangs], hn⟩
      · obtain rfl : s' = m' := hread
        simp only [typeRef_of_head? (hhead' ▸ hhead), he, error_bind]
    · obtain ⟨rfl, -⟩ := name_eq_ok.1 hn
      exact absurd h (bang_ne_error hs)

theorem description_ne_error (hs : s.isComplete = true) : description source s ≠ .error e := by
  intro h
  unfold description at h
  split at h
  · exact absurd h (take_bind_ne_error hs)
  · exact absurd h (take_bind_ne_error hs)
  · cases h

/-- A description is read alike wherever the same token follows it. -/
theorem description_alike (source : String) {d : Option Description} {s' m' : Stream}
    (h : Reads (Description.lexemes d) s m) (hnone : d = none → startsText s.head? = false)
    (h' : Reads (Description.lexemes d) s' m') (hhead : m'.head? = m.head?) :
    description source s' = .ok (d.map Description.value, m') := by
  refine description_eq_ok.2 ⟨d, h', rfl, ?_⟩
  rintro rfl
  rw [show s' = m' from h', hhead, ← show s = m from h]
  exact hnone rfl

/-- A field goes on after its name. -/
theorem fieldDef_of_name {d : Option Description} {n : String}
    (h : Reads (Description.lexemes d ++ [.name n]) s m) (hn : ¬ IsReserved n) :
    fieldDef source s =
      if m.head? = some (.punct .parenL) then failAt source m .arguments
      else do
        let k ← punct source .colon m
        let (type, k) ← typeRef source k
        if k.head? = some (.punct .at) then failAt source k .directive
        else if k.head? = some (.punct .equals) then failAt source k .defaultValue
        else return (⟨n, type, d.map Description.value,
          some (locate source (s.drop (Description.lexemes d).length).position)⟩, k) := by
  obtain ⟨k, hd, p, m, rfl, hm, rfl⟩ := reads_append.1 h
  have hname : name source "a field name" (.next ⟨.name n, p⟩ m) = .ok ((n, p), m) :=
    name_eq_ok.2 ⟨rfl, hm, hn⟩
  unfold fieldDef
  rw [description_of_reads hd rfl rfl, ok_bind]
  simp only [hname, ok_bind, hd.drop]
  rfl

/-- A field ends after its type. -/
theorem fieldDef_of_type {x : FieldDef} (h : Reads x.lexemes s m) (hp : x.Permitted)
    (hbang : x.type.bang = false → m.head? ≠ some (.punct .bang)) :
    fieldDef source s =
      if m.head? = some (.punct .at) then failAt source m .directive
      else if m.head? = some (.punct .equals) then failAt source m .defaultValue
      else .ok (x.field source s, m) := by
  have hsplit : x.lexemes = (Description.lexemes x.description ++ [.name x.name]) ++
      (.punct .colon :: x.type.lexemes) := by
    simp [FieldDef.lexemes]
  rw [hsplit] at h
  obtain ⟨k, hnamed, p, k', rfl, hk', ht⟩ := reads_append.1 h
  have hcolon : punct source .colon (.next ⟨.punct .colon, p⟩ k') = .ok k' :=
    punct_eq_ok.2 ⟨p, k', rfl, hk', rfl⟩
  have htype : typeRef source k' = .ok (x.type.ref, m) :=
    typeRef_eq_ok.2 ⟨x.type, ht, rfl, hp.2, hbang⟩
  rw [fieldDef_of_name hnamed hp.1, if_neg (by simp [Stream.head?]), hcolon, ok_bind, htype,
    ok_bind]
  rfl

theorem isField_of_name (d : Option Description) {n : String} (hn : ¬ IsReserved n) :
    IsField (Description.lexemes d ++ [.name n] ++ [.punct .colon, .name "a"]) :=
  ⟨⟨d, n, .name "a" false⟩, by simp [FieldDef.lexemes, Reference.lexemes, Reference.bangs], hn,
    isReserved_a⟩

/-- What is blamed in a field after its name. -/
theorem fieldDef_blames_of_name {d : Option Description} {n : String} (hs : s.isComplete = true)
    (hread : Reads (Description.lexemes d ++ [.name n]) s m) (hn : ¬ IsReserved n)
    (h : fieldDef source s = .error e) :
    Blames (fun source s e => fieldDef source s = .error e) IsField s := by
  have hm : m.isComplete = true := hread.isComplete.symm.trans hs
  rw [fieldDef_of_name hread hn] at h
  by_cases hparen : m.head? = some (.punct .parenL)
  · refine ⟨_, m, .arguments, hread, ⟨_, isField_of_name d hn⟩, ?_⟩
    intro source s' m' hread' _ hhead
    rw [fieldDef_of_name hread' hn, if_pos (hhead.trans hparen)]
    rfl
  rw [if_neg hparen] at h
  rcases bind_eq_error.1 h with hcolon | ⟨k, hcolon, h⟩
  · refine (punct_blames hm hcolon).of_reads hread ?_ fun source s' m' e hread' _ hhead he => ?_
    · rintro _ rfl
      exact ⟨[.name "a"], isField_of_name d hn⟩
    · rw [fieldDef_of_name hread' hn, if_neg (hhead ▸ hparen), he, error_bind]
  have hcolon := punct_eq_ok.1 hcolon
  have hk : k.isComplete = true := hcolon.isComplete.symm.trans hm
  rcases bind_eq_error.1 h with ht | ⟨⟨t, r⟩, ht, h⟩
  · refine (typeRef_blames hk ht).of_reads (hread.append hcolon) ?_
      fun source s' k' e hread' _ hhead he => ?_
    · rintro _ ⟨x, rfl, hx⟩
      exact ⟨[], ⟨d, n, x⟩, by simp [FieldDef.lexemes], hn, hx⟩
    · obtain ⟨m', hread', hcolon'⟩ := reads_append.1 hread'
      have hparen' : m'.head? ≠ some (.punct .parenL) := by rw [hcolon'.head?]; simp
      rw [fieldDef_of_name hread' hn, if_neg hparen', punct_eq_ok.2 hcolon', ok_bind, he,
        error_bind]
  obtain ⟨x, hx, -, hfree, hbang⟩ := typeRef_eq_ok.1 ht
  have hfield : Reads (FieldDef.lexemes ⟨d, n, x⟩) s r := by
    simpa [FieldDef.lexemes] using (hread.append hcolon).append hx
  have hsentence : IsField (FieldDef.lexemes ⟨d, n, x⟩ ++ []) := ⟨⟨d, n, x⟩, by simp, hn, hfree⟩
  by_cases hat : r.head? = some (.punct .at)
  · refine ⟨_, r, .directive, hfield, ⟨[], hsentence⟩, ?_⟩
    intro source s' r' hread' _ hhead
    rw [fieldDef_of_type hread' ⟨hn, hfree⟩ (hhead ▸ hbang), if_pos (hhead.trans hat)]
    rfl
  by_cases hequals : r.head? = some (.punct .equals)
  · refine ⟨_, r, .defaultValue, hfield, ⟨[], hsentence⟩, ?_⟩
    intro source s' r' hread' _ hhead
    rw [fieldDef_of_type hread' ⟨hn, hfree⟩ (hhead ▸ hbang), if_neg (hhead ▸ hat),
      if_pos (hhead.trans hequals)]
    rfl
  · simp only [if_neg hat, if_neg hequals] at h
    cases h

theorem fieldDef_blames (hs : s.isComplete = true) (h : fieldDef source s = .error e) :
    Blames (fun source s e => fieldDef source s = .error e) IsField s := by
  have hstart := h
  unfold fieldDef at hstart
  rcases bind_eq_error.1 hstart with hd | ⟨⟨text, m⟩, hd, hrest⟩
  · exact absurd hd (description_ne_error hs)
  obtain ⟨d, hd, -, hnone⟩ := description_eq_ok.1 hd
  have hm : m.isComplete = true := hd.isComplete.symm.trans hs
  rcases bind_eq_error.1 hrest with hn | ⟨⟨⟨n, p⟩, k⟩, hn, -⟩
  · refine (name_blames hm hn).of_reads hd ?_ fun source s' m' e hread _ hhead he => ?_
    · rintro _ ⟨n, rfl, hn⟩
      exact ⟨[.punct .colon, .name "a"], by simpa using isField_of_name d hn⟩
    · simp only [fieldDef, description_alike source hd hnone hread hhead, ok_bind, he, error_bind]
  obtain ⟨rfl, hk, hn⟩ := name_eq_ok.1 hn
  have hnamed : Reads (Description.lexemes d ++ [.name n]) s k := hd.append ⟨p, k, rfl, hk, rfl⟩
  exact fieldDef_blames_of_name hs hnamed hn h

/-- The sentences of the fields of a type, up to the closing brace. -/
def IsFields (ls : List Lexeme) : Prop :=
  ∃ x xs, (x :: xs).flatMap FieldDef.lexemes ++ [.punct .braceR] = ls ∧
    ∀ y ∈ x :: xs, FieldDef.Permitted y

theorem any_name_eq {seen seen' : List Field} (h : seen'.map Field.name = seen.map Field.name)
    (n : String) : seen'.any (fun g => g.name == n) = seen.any (fun g => g.name == n) := by
  have hmap : ∀ fs : List Field, fs.any (fun g => g.name == n) = (fs.map Field.name).any (· == n) :=
    fun fs => by rw [List.any_map]; rfl
  rw [hmap, hmap, h]

/-- Fields go on after one that is not the last. -/
theorem fields_of_field {type : String} {seen : List Field} {x : FieldDef}
    (h : Reads x.lexemes s m) (hp : x.Permitted) (hends : EndsField x m.head?)
    (hseen : seen.any (fun g => g.name == x.name) = false)
    (hbrace : m.head? ≠ some (.punct .braceR)) : fields source type seen s =
      if m.isStop then failAt source m (.unclosedType type)
      else fields source type (x.field source s :: seen) m := by
  have hf : fieldDef source s = .ok (x.field source s, m) := fieldDef_eq_ok.2 ⟨x, h, rfl, hp, hends⟩
  rw [fields_of_ok _ _ hf, if_neg (by simpa [FieldDef.field] using hseen), if_neg hbrace]

/-- Of the fields before, only the names count. -/
theorem fields_blames {type : String} {seen : List Field} (hs : s.isComplete = true)
    (h : fields source type seen s = .error e) (hkind : e.kind = .malformed) :
    Blames (fun source s e => ∀ seen', seen'.map Field.name = seen.map Field.name →
      fields source type seen' s = .error e) IsFields s := by
  fun_induction fields source type seen s with
  | case1 seen s e' he =>
    have hnil : Reads [] s s := rfl
    refine (fieldDef_blames hs he).of_reads hnil ?_ fun source s' m' e hread _ _ he seen' _ => ?_
    · rintro _ ⟨x, rfl, hx⟩
      exact ⟨[.punct .braceR], x, [], by simp, by simpa using hx⟩
    · obtain rfl : s' = m' := hread
      exact fields_of_error he
  | case2 seen s f s' hf hseen =>
    cases h
    cases hkind
  | case3 seen s f s' hf hseen hbrace =>
    obtain ⟨x, hx, -⟩ := fieldDef_eq_ok.1 hf
    have hs' : s'.isComplete = true := hx.isComplete.symm.trans hs
    obtain ⟨p, rest, rfl, -, hrest⟩ := exists_next hs' hbrace
    exact absurd h (take_bind_ne_error hrest)
  | case4 seen s f s' hf hseen hbrace hstop =>
    obtain ⟨x, hx, rfl, hp, hends⟩ := fieldDef_eq_ok.1 hf
    have hs' : s'.isComplete = true := hx.isComplete.symm.trans hs
    have hsentence : IsFields (x.lexemes ++ [.punct .braceR]) :=
      ⟨x, [], by simp, by simpa using hp⟩
    refine ⟨_, s', .unclosedType type, hx, ⟨_, hsentence⟩, ?_⟩
    intro source t m' hread hm' hhead seen' hnames
    rw [isStop_eq_isNone hs', ← hhead, ← isStop_eq_isNone hm'] at hstop
    rw [← any_name_eq hnames, Bool.not_eq_true] at hseen
    rw [fields_of_field hread hp (hhead ▸ hends) hseen (hhead ▸ hbrace), if_pos hstop]
    rfl
  | case5 seen s f s' hf hseen hbrace hstop ih =>
    obtain ⟨x, hx, rfl, hp, hends⟩ := fieldDef_eq_ok.1 hf
    have hs' : s'.isComplete = true := hx.isComplete.symm.trans hs
    refine (ih hs' h).of_reads hx ?_ fun source t m' e hread hm' hhead he seen' hnames => ?_
    · rintro _ ⟨y, ys, rfl, hys⟩
      exact ⟨[], x, y :: ys, by simp, List.forall_mem_cons.2 ⟨hp, hys⟩⟩
    · rw [isStop_eq_isNone hs', ← hhead, ← isStop_eq_isNone hm'] at hstop
      rw [← any_name_eq hnames, Bool.not_eq_true] at hseen
      rw [fields_of_field hread hp (hhead ▸ hends) hseen (hhead ▸ hbrace), if_neg hstop]
      exact he _ (by simp [hnames, FieldDef.field])

/-! ## Definitions -/

/-- The sentences of what follows the keyword `type`. -/
def IsBody (ls : List Lexeme) : Prop :=
  ∃ n rest, .name n :: .punct .braceL :: rest = ls ∧ ¬ IsReserved n ∧ IsFields rest

theorem isFields_a : IsFields [.name "a", .punct .colon, .name "a", .punct .braceR] := by
  refine ⟨⟨none, "a", .name "a" false⟩, [], rfl, fun y hy => ?_⟩
  rw [List.mem_singleton.1 hy]
  exact ⟨isReserved_a, isReserved_a⟩

/-- A type goes on after its name. -/
theorem objectType_of_name {text : Option String} {start : Position} {n : String}
    (h : Reads [.name n] s m) (hn : ¬ IsReserved n) : objectType source text start s =
      if m.head? = some (.punct .at) then failAt source m .directive
      else if m.head? = some (.name "implements") then failAt source m .interfaces
      else do
        let k ← punct source .braceL m
        let (fs, k) ← fields source n [] k
        return (⟨n, fs, text, some (locate source start)⟩, k) := by
  obtain ⟨p, m, rfl, hm, rfl⟩ := h
  have hname : name source "a type name" (.next ⟨.name n, p⟩ m) = .ok ((n, p), m) :=
    name_eq_ok.2 ⟨rfl, hm, hn⟩
  unfold objectType
  rw [hname, ok_bind]

theorem objectType_blames {text : Option String} {start : Position} (hs : s.isComplete = true)
    (h : objectType source text start s = .error e) (hkind : e.kind = .malformed) :
    Blames (fun source s e => ∀ text start, objectType source text start s = .error e) IsBody
      s := by
  have hstart := h
  unfold objectType at hstart
  rcases bind_eq_error.1 hstart with hn | ⟨⟨⟨n, p⟩, m⟩, hn, -⟩
  · have hnil : Reads [] s s := rfl
    refine (name_blames hs hn).of_reads hnil ?_ fun source s' m' e hread _ _ he text start => ?_
    · rintro _ ⟨n, rfl, hn⟩
      exact ⟨_, n, _, rfl, hn, isFields_a⟩
    · obtain rfl : s' = m' := hread
      unfold objectType
      rw [he, error_bind]
  obtain ⟨rfl, hm, hn⟩ := name_eq_ok.1 hn
  have hread : Reads [.name n] (.next ⟨.name n, p⟩ m) m := ⟨p, m, rfl, hm, rfl⟩
  have hmc : m.isComplete = true := hs
  rw [objectType_of_name hread hn] at h
  -- A body with one field completes what has been read.
  have hbody : IsBody (.name n :: .punct .braceL :: _) := ⟨n, _, rfl, hn, isFields_a⟩
  by_cases hat : m.head? = some (.punct .at)
  · refine ⟨_, m, .directive, hread, ⟨_, hbody⟩, ?_⟩
    intro source s' m' hread' _ hhead text start
    rw [objectType_of_name hread' hn, if_pos (hhead.trans hat)]
    rfl
  rw [if_neg hat] at h
  by_cases himplements : m.head? = some (.name "implements")
  · refine ⟨_, m, .interfaces, hread, ⟨_, hbody⟩, ?_⟩
    intro source s' m' hread' _ hhead text start
    rw [objectType_of_name hread' hn, if_neg (hhead ▸ hat), if_pos (hhead.trans himplements)]
    rfl
  rw [if_neg himplements] at h
  rcases bind_eq_error.1 h with hopen | ⟨k, hopen, h⟩
  · refine (punct_blames hmc hopen).of_reads hread ?_
      fun source s' m' e hread' _ hhead he text start => ?_
    · rintro _ rfl
      exact ⟨_, hbody⟩
    · rw [objectType_of_name hread' hn, if_neg (hhead ▸ hat), if_neg (hhead ▸ himplements), he,
        error_bind]
  rcases bind_eq_error.1 h with hfields | ⟨⟨fs, r⟩, -, h⟩
  · have hopen := punct_eq_ok.1 hopen
    refine (fields_blames (hopen.isComplete.symm.trans hmc) hfields hkind).of_reads
      (hread.append hopen) ?_ fun source s' k' e hread' _ _ he text start => ?_
    · intro ls hls
      exact ⟨[], n, ls, by simp, hn, hls⟩
    · rw [objectType_of_reads hread' hn, he [] rfl, error_bind]
  · cases h

/-- The sentences that name a query root. -/
def IsOperation (ls : List Lexeme) : Prop := ∃ root, Clause.operation root = ls ∧ ¬ IsReserved root

theorem operation_of_query (h : Reads [.name "query"] s m) :
    operation source false s = (punct source .colon m >>= name source "a type name") := by
  obtain ⟨p, m, rfl, hm, rfl⟩ := h
  have hname : anyName source "a root operation" (.next ⟨.name "query", p⟩ m) =
      .ok (("query", p), m) := anyName_eq_ok.2 ⟨rfl, hm⟩
  unfold operation
  rw [hname, ok_bind]
  rfl

theorem operation_of_other {seen : Bool} {op : String} (hs : s.isComplete = true)
    (h : s.head? = some (.name op)) (hop : op ≠ "query") :
    operation source seen s = failAt source s (.rootOperation op) := by
  obtain ⟨p, m, rfl, hm, -⟩ := exists_next hs h
  have hname : anyName source "a root operation" (.next ⟨.name op, p⟩ m) = .ok ((op, p), m) :=
    anyName_eq_ok.2 ⟨rfl, hm⟩
  unfold operation
  rw [hname, ok_bind]
  exact if_pos hop

theorem operation_blames {seen : Bool} (hs : s.isComplete = true)
    (h : operation source seen s = .error e) (hkind : e.kind = .malformed) :
    Blames (fun source s e => operation source seen s = .error e) IsOperation s := by
  by_cases hname : ∃ op, s.head? = some (.name op)
  · obtain ⟨op, hhead⟩ := hname
    by_cases hop : op = "query"
    · subst hop
      obtain ⟨p, m, rfl, hm, hmc⟩ := exists_next hs hhead
      have hread : Reads [.name "query"] (.next ⟨.name "query", p⟩ m) m := ⟨p, m, rfl, hm, rfl⟩
      cases seen with
      | true =>
        rw [operation_of_repeated hread] at h
        cases h
        cases hkind
      | false =>
        rw [operation_of_query hread] at h
        rcases bind_eq_error.1 h with hcolon | ⟨k, hcolon, hn⟩
        · refine (punct_blames hmc hcolon).of_reads hread ?_ fun source s' m' e hread' _ _ he => ?_
          · rintro _ rfl
            exact ⟨[.name "a"], "a", rfl, isReserved_a⟩
          · rw [operation_of_query hread', he, error_bind]
        · have hcolon := punct_eq_ok.1 hcolon
          refine (name_blames (hcolon.isComplete.symm.trans hmc) hn).of_reads
            (hread.append hcolon) ?_ fun source s' k' e hread' _ _ he => ?_
          · rintro _ ⟨n, rfl, hn⟩
            exact ⟨[], n, rfl, hn⟩
          · obtain ⟨m', hread', hcolon'⟩ := reads_append.1 hread'
            rw [operation_of_query hread', punct_eq_ok.2 hcolon', ok_bind, he]
    · refine blames_head (.rootOperation op) ⟨_, "a", rfl, isReserved_a⟩ ?_
      intro source s' hs' hhead'
      rw [operation_of_other hs' (hhead'.trans hhead) hop]
      rfl
  · refine blames_head (.expected "a root operation" s.head?) ⟨_, "a", rfl, isReserved_a⟩ ?_
    intro source s' _ hhead
    unfold operation
    rw [anyName_of_head? fun n hn => hname ⟨n, hhead ▸ hn⟩, hhead, error_bind]

/-- The sentences of what follows the keyword `schema`. -/
def IsBlock (ls : List Lexeme) : Prop :=
  ∃ root more,
    .punct .braceL :: ((root :: more).flatMap Clause.operation ++ [.punct .braceR]) = ls ∧
    ∀ r ∈ root :: more, ¬ IsReserved r

theorem rootBlock_blames {start : Position} (hs : s.isComplete = true)
    (h : rootBlock source start s = .error e) (hkind : e.kind = .malformed) :
    Blames (fun source s e => ∀ start, rootBlock source start s = .error e) IsBlock s := by
  unfold rootBlock at h
  rcases bind_eq_error.1 h with hopen | ⟨m, hopen, h⟩
  · have hnil : Reads [] s s := rfl
    refine (punct_blames hs hopen).of_reads hnil ?_ fun source s' m' e hread _ _ he start => ?_
    · rintro _ rfl
      exact ⟨_, "a", [], rfl, by simpa using isReserved_a⟩
    · obtain rfl : s' = m' := hread
      unfold rootBlock
      rw [he, error_bind]
  have hopen := punct_eq_ok.1 hopen
  have hm : m.isComplete = true := hopen.isComplete.symm.trans hs
  rcases bind_eq_error.1 h with hop | ⟨⟨⟨root, p⟩, k⟩, hop, h⟩
  · refine (operation_blames hm hop hkind).of_reads hopen ?_
      fun source s' m' e hread _ _ he start => ?_
    · rintro _ ⟨root, rfl, hroot⟩
      exact ⟨[.punct .braceR], root, [], by simp, by simpa using hroot⟩
    · unfold rootBlock
      rw [punct_eq_ok.2 hread, ok_bind, he, error_bind]
  -- The root is named, so only another operation can be malformed.
  obtain ⟨m', hquery, rfl, hk, hroot⟩ := operation_eq_ok.1 hop
  have hfirst : Reads (.punct .braceL :: Clause.operation root) s k :=
    hopen.append (hquery.append ⟨p, k, rfl, hk, rfl⟩)
  have hkc : k.isComplete = true := hfirst.isComplete.symm.trans hs
  by_cases hbrace : k.head? = some (.punct .braceR)
  · obtain ⟨q, rest, rfl, -, hrest⟩ := exists_next hkc hbrace
    simp only [if_pos hbrace] at h
    exact absurd h (take_bind_ne_error hrest)
  simp only [if_neg hbrace] at h
  rcases bind_eq_error.1 h with hsecond | ⟨⟨q, r⟩, -, h⟩
  · refine (operation_blames hkc hsecond hkind).of_reads hfirst ?_
      fun source s' k' e hread _ hhead he start => ?_
    · rintro _ ⟨second, rfl, hsecond⟩
      exact ⟨[.punct .braceR], root, [second], by simp, by simpa using ⟨hroot, hsecond⟩⟩
    · rw [rootBlock_of_operation hread hroot (hhead ▸ hbrace), he, error_bind]
  · cases h
    cases hkind

/-- The sentences of definitions. -/
def IsClause (ls : List Lexeme) : Prop := ∃ x : Clause, x.lexemes = ls ∧ x.Permitted

theorem isClause_of_isBody {d : Option Description} {ls : List Lexeme} (h : IsBody ls) :
    IsClause (Description.lexemes d ++ .name "type" :: ls) := by
  obtain ⟨n, _, rfl, hn, x, xs, rfl, hxs⟩ := h
  exact ⟨.type ⟨d, n, x, xs⟩, rfl, hn, hxs⟩

/-- What is wrong with a token that no definition has as its keyword. -/
def keywordCause : Option Lexeme → SchemaError.Cause
  | some (.name keyword) =>
    if keyword ∈ unsupported then .unsupported keyword
    else .expected "a type definition" (some (.name keyword))
  | l => .expected "a type definition" l

theorem definition_of_other {text : Option String} (h : description source s = .ok (text, m))
    (htype : m.head? ≠ some (.name "type")) (hschema : m.head? ≠ some (.name "schema")) :
    definition source s = failAt source m (keywordCause m.head?) := by
  unfold definition
  rw [h, ok_bind]
  simp only
  split
  · rename_i keyword p rest
    have htype' : keyword ≠ "type" := fun hk => htype (by rw [hk]; rfl)
    have hschema' : keyword ≠ "schema" := fun hk => hschema (by rw [hk]; rfl)
    rw [if_neg htype', if_neg hschema']
    unfold keywordCause failAt
    simp only [Stream.head?]
    split <;> rfl
  · rename_i hname
    unfold keywordCause
    split
    · rename_i keyword hkeyword
      cases m with
      | next t rest =>
        obtain ⟨l, p⟩ := t
        cases hkeyword
        exact absurd rfl (hname _ _ _)
      | stop p => cases hkeyword
      | fault why p => cases hkeyword
    · rfl

theorem definition_of_described {text : String} (hm : m.isComplete = true)
    (h : description source s = .ok (some text, m)) (hschema : m.head? = some (.name "schema")) :
    definition source s = failAt source m .describedSchema := by
  obtain ⟨p, rest, rfl, -⟩ := exists_next hm hschema
  unfold definition
  rw [h, ok_bind]
  rfl

theorem definition_blames (hs : s.isComplete = true) (h : definition source s = .error e)
    (hkind : e.kind = .malformed) :
    Blames (fun source s e => definition source s = .error e) IsClause s := by
  have hstart := h
  unfold definition at hstart
  rcases bind_eq_error.1 hstart with hd | ⟨⟨text, m⟩, hd, -⟩
  · exact absurd hd (description_ne_error hs)
  obtain ⟨d, hread, rfl, hnone⟩ := description_eq_ok.1 hd
  have hm : m.isComplete = true := hread.isComplete.symm.trans hs
  -- What has been read so far can always go on as a type.
  have hclause : IsClause (Description.lexemes d ++ .name "type" :: _) :=
    isClause_of_isBody ⟨"a", _, rfl, isReserved_a, isFields_a⟩
  by_cases htype : m.head? = some (.name "type")
  · obtain ⟨p, rest, rfl, hfault, hrest⟩ := exists_next hm htype
    have hkeyword : Reads (Description.lexemes d ++ [.name "type"]) s rest :=
      hread.append ⟨p, rest, rfl, hfault, rfl⟩
    rw [definition_of_type hkeyword] at h
    rcases bind_eq_error.1 h with hbody | ⟨_, -, h⟩
    · refine (objectType_blames hrest hbody hkind).of_reads hkeyword ?_
        fun source s' m' e hread' _ _ he => ?_
      · intro ls hls
        refine ⟨[], ?_⟩
        simpa using isClause_of_isBody hls
      · rw [definition_of_type hread', he, error_bind]
    · cases h
  by_cases hschema : m.head? = some (.name "schema")
  · cases d with
    | some text =>
      refine ⟨_, m, .describedSchema, hread, ⟨_, hclause⟩, ?_⟩
      intro source s' m' hread' hm' hhead
      have hd' := description_alike source hread hnone hread' hhead
      rw [definition_of_described hm' hd' (hhead.trans hschema)]
      rfl
    | none =>
      obtain rfl : s = m := hread
      obtain ⟨p, rest, rfl, hfault, hrest⟩ := exists_next hm hschema
      have hkeyword : Reads [.name "schema"] (.next ⟨.name "schema", p⟩ rest) rest :=
        ⟨p, rest, rfl, hfault, rfl⟩
      rw [definition_of_schema hkeyword] at h
      rcases bind_eq_error.1 h with hblock | ⟨_, -, h⟩
      · refine (rootBlock_blames hrest hblock hkind).of_reads hkeyword ?_
          fun source s' m' e hread' _ _ he => ?_
        · rintro _ ⟨root, more, rfl, hroots⟩
          exact ⟨[], .block root more, by simp [Clause.lexemes], hroots⟩
        · rw [definition_of_schema hread', he, error_bind]
      · cases h
  · refine ⟨_, m, keywordCause m.head?, hread, ⟨_, hclause⟩, ?_⟩
    intro source s' m' hread' _ hhead
    have hd' := description_alike source hread hnone hread' hhead
    rw [definition_of_other hd' (hhead ▸ htype) (hhead ▸ hschema), hhead]
    rfl

/-! ## Whole sources -/

/-- The definitions of a malformed stream, and the token that is blamed after them. -/
theorem exists_blamed (hs : s.isComplete = true) (h : (definitions source s).2 = .failed e)
    (hkind : e.kind = .malformed) :
    ∃ (d : Grammar.Document) (ls : List Lexeme) (r : Stream) (cause : SchemaError.Cause),
      Reads (d.lexemes ++ ls) s r ∧ d.Readable ∧ (∃ rest, IsClause (ls ++ rest)) ∧
      .atPosition source r.position cause = e ∧
      ∀ source' s' r', Reads (d.lexemes ++ ls) s' r' → r'.isComplete = true →
        r'.head? = r.head? → definitions source' s' =
          (d.definitions source' s', .failed (.atPosition source' r'.position cause)) := by
  obtain ⟨d, m, hm, hd, -, hend⟩ := exists_document_of_definitions source s
  rcases hend with ⟨p, -, hcomplete⟩ | ⟨hstop, e', he', hfailed⟩
  · rw [hcomplete] at h
    cases h
  rw [hfailed] at h
  cases h
  have hmc : m.isComplete = true := hm.isComplete.symm.trans hs
  obtain ⟨ls, r, cause, hr, hrest, hfails⟩ := definition_blames hmc he' hkind
  have hrc : r.isComplete = true := hr.isComplete.symm.trans hmc
  refine ⟨d, ls, r, cause, hm.append hr, hd, hrest, ?_, fun source' s' r' hread hr'c hhead => ?_⟩
  · exact Except.error.inj ((hfails source m r hr hrc rfl).symm.trans he')
  · obtain ⟨m', hm', hr'⟩ := reads_append.1 hread
    have hstop' : m'.isStop = false := by
      rw [isStop_eq_isNone (hr'.isComplete.trans hr'c), hr'.head?, hhead, ← hr.head?,
        ← isStop_eq_isNone hmc, hstop]
    rw [definitions_append hm' hd,
      definitions_of_error hstop' (hfails source' m' r' hr' hr'c hhead), List.append_nil]

theorem viable_of_isClause {d : Grammar.Document} {ls rest : List Lexeme} (hd : d.Readable)
    (h : IsClause (ls ++ rest)) : Viable ((d.lexemes ++ ls).map some) := by
  obtain ⟨x, hx, hp⟩ := h
  refine ⟨d.map Def.clause ++ [x], ?_, rest.map some ++ [none], ?_⟩
  · refine List.forall_mem_append.2 ⟨?_, by simpa using hp⟩
    refine List.forall_mem_map.2 fun y hy => ?_
    exact Def.permitted_clause.2 (hd y hy).1
  · have hlexemes : Draft.lexemes (d.map Def.clause ++ [x]) = d.lexemes ++ (ls ++ rest) := by
      rw [Draft.lexemes, List.flatMap_append, List.flatMap_map, List.flatMap_singleton, hx]
      simp only [Def.lexemes_clause]
      rfl
    simp [hlexemes]

/-- Tokens that make every stream malformed begin no sentence. -/
theorem not_viable_of_failed {ls : List Lexeme} {a : Option Lexeme}
    (h : ∀ source s r, Reads ls s r → r.isComplete = true → r.head? = a →
      ∃ e, (definitions source s).2 = .failed e ∧ e.kind = .malformed) :
    ¬ Viable (ls.map some ++ [a]) := by
  rintro ⟨d, hd, hprefix⟩
  -- A stream of the sentence would be malformed, but only its names can be wrong.
  obtain ⟨s, hs⟩ := exists_reads d.lexemes
  have hc : s.isComplete = true := hs.isComplete
  have hsymbols : s.symbols = d.lexemes.map some ++ [none] := by
    rw [hs.symbols]
    rfl
  obtain ⟨r, hr, hrc, ha⟩ := exists_reads_of_isPrefix hc (hsymbols ▸ hprefix)
  obtain ⟨e, he, hkind⟩ := h "" s r hr hrc ha
  rw [kind_of_draft hs hd he] at hkind
  cases hkind

end Document

namespace Collector

open TypedQuery.Stream TypedQuery.Grammar

variable {c c' : Collector} {source text : String} {e : SchemaError}

/-- Whether definitions fit does not depend on where they stand. -/
theorem fits_definitions {d : Grammar.Document} {s : Stream} (h : c.Fits (d.definitions source s))
    (source' : String) (s' : Stream) : c.Fits (d.definitions source' s') := by
  rw [← fits_place .nowhere, Grammar.Document.map_place_definitions] at h ⊢
  exact h

/-- A malformed source is refused where it is malformed, after its definitions were taken. -/
theorem addSource_of_failed {d : Grammar.Document} (hs : (Stream.ofText text).isComplete = true)
    (hfit : c.Fits (d.definitions source (Stream.ofText text)))
    (h : Document.definitions source (Stream.ofText text) =
      (d.definitions source (Stream.ofText text), .failed e)) :
    (c.addSource source text).2 = some e := by
  unfold addSource Document.ofText
  rw [Document.ofStream_of_isComplete hs, h]
  simp only [addAll_eq_none_iff.2 ⟨hfit, rfl⟩]

theorem failed_of_addSource (hs : (Stream.ofText text).isComplete = true)
    (h : c.addSource source text = (c', some e)) (hkind : e.kind = .malformed) :
    (Document.definitions source (Stream.ofText text)).2 = .failed e ∧
      c.Fits (Document.definitions source (Stream.ofText text)).1 := by
  unfold addSource Document.ofText at h
  rw [Document.ofStream_of_isComplete hs] at h
  generalize Document.definitions source (Stream.ofText text) = x at h ⊢
  obtain ⟨ds, ending⟩ := x
  simp only at h ⊢
  split at h
  · rename_i c₁ e₁ hall
    cases h
    obtain ⟨front, x, rest, -, -, hx⟩ := exists_refused hall
    rw [kind_of_add hx] at hkind
    cases hkind
  · rename_i c₁ hall
    split at h
    · cases h
      exact ⟨rfl, (addAll_eq_none_iff.1 hall).1⟩
    · cases h

/-- **The first impossible token.** A malformed text is refused at a token, where the end of the
text counts as one. What stands before the token begins a sentence of the grammar, and together with
it no sentence begins so. The same collector refuses every text with the same tokens up to that one
at that token, for the same cause. -/
theorem addSource_blames (c c' : Collector) (source text : String) (e : SchemaError)
    (hs : (Stream.ofText text).isComplete = true) (h : c.addSource source text = (c', some e))
    (hkind : e.kind = .malformed) :
    ∃ i < (Stream.ofText text).symbols.length,
      e.location = some (Document.locate source ((Stream.ofText text).drop i).position) ∧
      Viable ((Stream.ofText text).symbols.take i) ∧
      ¬ Viable ((Stream.ofText text).symbols.take (i + 1)) ∧
      ∀ source' text', (Stream.ofText text').isComplete = true →
        (Stream.ofText text').symbols.take (i + 1) = (Stream.ofText text).symbols.take (i + 1) →
        (c.addSource source' text').2 = some ⟨e.cause,
          some (Document.locate source' ((Stream.ofText text').drop i).position)⟩ := by
  obtain ⟨hfailed, hfit⟩ := failed_of_addSource hs h hkind
  obtain ⟨d, ls, r, cause, hread, hd, ⟨rest, hclause⟩, rfl, hfails⟩ :=
    Document.exists_blamed hs hfailed hkind
  have hr : r.isComplete = true := hread.isComplete.symm.trans hs
  obtain ⟨htake, htake'⟩ := hread.take_symbols
  rw [hfails source _ r hread hr rfl] at hfit
  refine ⟨(d.lexemes ++ ls).length, hread.length_lt_symbols, ?_, ?_, ?_,
    fun source' text' hs' hsame => ?_⟩
  · rw [hread.drop]
    rfl
  · rw [htake]
    exact Document.viable_of_isClause hd hclause
  · rw [htake']
    refine Document.not_viable_of_failed fun source' s' r' hread' hr' hhead => ?_
    exact ⟨_, congrArg Prod.snd (hfails source' s' r' hread' hr' hhead), hkind⟩
  · rw [htake'] at hsame
    obtain ⟨r', hread', hr', hhead⟩ := exists_reads_of_isPrefix hs'
      (hsame ▸ List.take_prefix ((d.lexemes ++ ls).length + 1) _)
    rw [hread'.drop]
    exact addSource_of_failed hs' (fits_definitions hfit source' _)
      (hfails source' _ r' hread' hr' hhead)

/-- A list that is left open is blamed on the brace after it; the type before it is taken. -/
theorem addSource_blames_open_list :
    let s := Stream.ofText "type A \x7b x: Int \x7d type B \x7b y: [A \x7d"
    s.isComplete = true ∧ ∃ i < s.symbols.length,
      Document.locate "a" (s.drop i).position = ⟨"a", 1, 34⟩ ∧
        Viable (s.symbols.take i) ∧ ¬ Viable (s.symbols.take (i + 1)) := by
  intro s
  have hs : s.isComplete = true := by decide +kernel
  obtain ⟨i, hi, hlocation, hviable, hnot, -⟩ := addSource_blames {} _ "a" _
    ⟨.expected "']'" (some (.punct .braceR)), some ⟨"a", 1, 34⟩⟩ hs
    (Prod.ext rfl (by decide +kernel)) rfl
  exact ⟨hs, i, hi, (Option.some.inj hlocation).symm, hviable, hnot⟩

end Collector

end TypedQuery
