/-
  Recordwise.Proofs.DatePattern.Spelling
  ──────────────────────────────────────
  **How the tokens of a pattern are spelt.**

  A field is spelt by its letters.  Literal text is spelt in pieces: a bare
  piece stands as it is and has no letters and no quotes, a quoted piece
  stands between quotes and has its own quotes doubled.  No two quoted pieces
  are neighbours, for the quotes where they meet would be a doubled one.  The
  texts that are read as patterns are the spellings, where a quoted piece may
  be empty.  Main statements:

      scan_of_spells   — a spelling is read as its tokens
      spells_of_scan   — what is read is a spelling of the tokens
      compile_spelling — spellings without empty pieces compile to their
                         tokens, and without empty quotes nothing else does
-/
import Recordwise.Proofs.DatePattern.NormalForm
import Recordwise.Query.Printer

namespace Recordwise.DatePattern

open List (IsChain)
open Query (doubleQuotes)

/-! ## §1. Spellings. -/

/-- A piece of literal text. -/
inductive Piece where
  /-- Text without letters and quotes. -/
  | bare (cs : List Char)
      (plain : cs ≠ [] ∧ ∀ c ∈ cs, isLetter c = false ∧ c ≠ '\'')
  /-- Text between quotes. -/
  | quoted (cs : List Char)

namespace Piece

/-- The text of a piece. -/
def text : Piece → List Char
  | bare cs _ => cs
  | quoted cs => cs

/-- A piece as it stands in a pattern. -/
def written : Piece → List Char
  | bare cs _ => cs
  | quoted cs => '\'' :: (doubleQuotes cs ++ ['\''])

/-- Whether a piece is quoted. -/
def isQuoted : Piece → Bool
  | bare _ _ => false
  | quoted _ => true

/-- Whether two pieces may be neighbours: they are not both quoted. -/
def Apart (p q : Piece) : Prop := p.isQuoted = true → q.isQuoted = false

/-- Whether a piece has some text. -/
def IsFilled (p : Piece) : Prop := p.text ≠ []

end Piece

/-- The letters of a field. -/
def Token.letters : Token → List Char
  | .year => ['y', 'y', 'y', 'y']
  | .month => ['M', 'M']
  | .day => ['d', 'd']
  | .hour => ['H', 'H']
  | .minute => ['m', 'm']
  | .second => ['s', 's']
  | .literal _ => []

/-- Whether a text spells tokens, with pieces that are allowed. -/
inductive Spells (Allowed : Piece → Prop) : List Token → List Char → Prop
  | nil : Spells Allowed [] []
  | field {tok : Token} {ts : List Token} {cs : List Char} (field : tok.isLiteral = false)
      (rest : Spells Allowed ts cs) : Spells Allowed (tok :: ts) (tok.letters ++ cs)
  | literal {ps : List Piece} {ts : List Token} {cs : List Char} (ne : ps ≠ [])
      (allowed : ∀ p ∈ ps, Allowed p) (apart : IsChain Piece.Apart ps)
      (rest : Spells Allowed ts cs) :
      Spells Allowed (.literal (ps.flatMap Piece.text) :: ts) (ps.flatMap Piece.written ++ cs)

/-- Whether quotes with nothing between them stand outside quotes, so that an even
number of quotes precedes them, with certain characters beside them or an end
of the text. -/
def HasQuotes (Beside : Char → Prop) (cs : List Char) : Prop :=
  ∃ u v, cs = u ++ '\'' :: '\'' :: v ∧ u.count '\'' % 2 = 0 ∧
    (∀ c ∈ u.getLast?, Beside c) ∧ ∀ c ∈ v.head?, Beside c

/-- Whether quotes with nothing between them stand outside quotes, and are not
part of a longer run. -/
def HasEmptyQuotes (cs : List Char) : Prop := HasQuotes (· ≠ '\'') cs

/-! ## §2. Reading a piece. -/

theorem map_map_consLiteral (cs ds : List Char) (x : Except CompileFault (List Token)) :
    (x.map (consLiteral ds)).map (consLiteral cs) = x.map (consLiteral (cs ++ ds)) := by
  cases x with
  | error e => rfl
  | ok ts =>
      show Except.ok (consLiteral cs (consLiteral ds ts)) = _
      rw [consLiteral_consLiteral]
      rfl

theorem scan_letters {tok : Token} (field : tok.isLiteral = false) (r : List Char) :
    scan false (tok.letters ++ r) = (scan false r).map (tok :: ·) := by
  cases tok with
  | literal l => cases field
  | _ => rfl

/-- A character that is no letter and no quote is a piece of text. -/
theorem scan_plain {c : Char} (letter : isLetter c = false) (quote : c ≠ '\'') (r : List Char) :
    scan false (c :: r) = (scan false r).map (consLiteral [c]) := by
  have other (d : Char) (isLetter : isLetter d = true) : c ≠ d := by
    intro same
    rw [same, isLetter] at letter
    cases letter
  rw [scan]
  · rw [letter]
    rfl
  · exact quote
  -- no field begins with the character
  · intro r' first _
    exact other 'y' rfl first
  · intro r' first _
    exact other 'M' rfl first
  · intro r' first _
    exact other 'd' rfl first
  · intro r' first _
    exact other 'H' rfl first
  · intro r' first _
    exact other 'm' rfl first
  · intro r' first _
    exact other 's' rfl first

theorem scan_bare {cs : List Char} (ne : cs ≠ [])
    (plain : ∀ c ∈ cs, isLetter c = false ∧ c ≠ '\'') (r : List Char) :
    scan false (cs ++ r) = (scan false r).map (consLiteral cs) := by
  induction cs with
  | nil => exact absurd rfl ne
  | cons c cs ih =>
      obtain ⟨letter, quote⟩ := plain c List.mem_cons_self
      rw [List.cons_append, scan_plain letter quote]
      cases cs with
      | nil => rfl
      | cons d cs =>
          rw [ih (List.cons_ne_nil d cs) fun e he => plain e (List.mem_cons_of_mem c he),
            map_map_consLiteral]
          rfl

/-- Behind an open quote the text is read up to the quote that closes it, which
no other quote follows. -/
theorem scan_quoted (cs : List Char) {r : List Char} (closed : r.head? ≠ some '\'') :
    scan true (doubleQuotes cs ++ '\'' :: r) = (scan false r).map (consLiteral cs) := by
  induction cs with
  | nil =>
      show scan true ('\'' :: r) = _
      cases r with
      | nil => rfl
      | cons c r =>
          rw [scan]
          intro r' doubled
          rw [doubled] at closed
          exact closed rfl
  | cons c cs ih =>
      by_cases quote : c = '\''
      · rw [doubleQuotes, if_pos quote, quote]
        show (scan true (doubleQuotes cs ++ '\'' :: r)).map (consLiteral ['\'']) = _
        rw [ih, map_map_consLiteral]
        rfl
      · rw [doubleQuotes, if_neg quote, List.cons_append, scan]
        · rw [ih, map_map_consLiteral]
          rfl
        · intro r' first _
          exact quote first
        · exact quote

/-- A piece is read as its text, if no quote follows a quoted one. -/
theorem scan_piece (p : Piece) {r : List Char}
    (closed : p.isQuoted = true → r.head? ≠ some '\'') :
    scan false (p.written ++ r) = (scan false r).map (consLiteral p.text) := by
  cases p with
  | bare cs plain => exact scan_bare plain.1 plain.2 r
  | quoted cs =>
      show scan false ('\'' :: (doubleQuotes cs ++ ['\'']) ++ r) = _
      rw [List.cons_append, List.append_assoc]
      exact scan_quoted cs (closed rfl)

/-! ## §3. Where quotes stand. -/

theorem head?_written (p : Piece) (r : List Char) :
    (p.written ++ r).head? = some '\'' ↔ p.isQuoted = true := by
  cases p with
  | bare cs plain =>
      obtain ⟨ne, plain⟩ := plain
      cases cs with
      | nil => exact absurd rfl ne
      | cons c cs =>
          have quote := (plain c List.mem_cons_self).2
          simp [Piece.written, Piece.isQuoted, quote]
  | quoted cs => simp [Piece.written, Piece.isQuoted]

theorem head?_letters {tok : Token} (field : tok.isLiteral = false) (r : List Char) :
    ∃ c, (tok.letters ++ r).head? = some c ∧ isLetter c = true := by
  cases tok with
  | literal l => cases field
  | _ => exact ⟨_, rfl, rfl⟩

/-- The pieces behind a quoted one begin with no quote. -/
theorem head?_pieces {p : Piece} {ps : List Piece} (apart : IsChain Piece.Apart (p :: ps))
    {r : List Char} (closed : r.head? ≠ some '\'') (quoted : p.isQuoted = true) :
    (ps.flatMap Piece.written ++ r).head? ≠ some '\'' := by
  cases ps with
  | nil => exact closed
  | cons q ps =>
      have bare := apart.rel_head? rfl quoted
      rw [List.flatMap_cons, List.append_assoc, ne_eq, head?_written, bare]
      decide

/-- What spells tokens that begin with no literal text begins with no quote. -/
theorem head?_spells {Allowed : Piece → Prop} {ts : List Token} {cs : List Char}
    (h : Spells Allowed ts cs) (field : ∀ tok ∈ ts.head?, tok.isLiteral = false) :
    cs.head? ≠ some '\'' := by
  cases h with
  | nil => simp
  | field plain rest =>
      obtain ⟨c, first, letter⟩ := head?_letters plain _
      rw [first]
      intro same
      rw [Option.some.inj same] at letter
      cases letter
  | literal ne allowed apart rest =>
      have := field _ rfl
      cases this

/-! ## §4. Reading a spelling. -/

theorem scan_pieces {ps : List Piece} (ne : ps ≠ []) (apart : IsChain Piece.Apart ps)
    {r : List Char} (closed : r.head? ≠ some '\'') :
    scan false (ps.flatMap Piece.written ++ r) =
      (scan false r).map (consLiteral (ps.flatMap Piece.text)) := by
  induction ps with
  | nil => exact absurd rfl ne
  | cons p ps ih =>
      rw [List.flatMap_cons, List.flatMap_cons, List.append_assoc,
        scan_piece p (head?_pieces apart closed)]
      cases ps with
      | nil => rw [List.flatMap_nil, List.flatMap_nil, List.append_nil, List.nil_append]
      | cons q ps =>
          rw [ih (List.cons_ne_nil q ps) apart.tail, map_map_consLiteral]

/-- **A spelling is read as its tokens.** -/
theorem scan_of_spells {Allowed : Piece → Prop} {ts : List Token} {cs : List Char}
    (h : Spells Allowed ts cs) (apart : IsChain Token.Apart ts) : scan false cs = .ok ts := by
  induction h with
  | nil => rfl
  | field plain rest ih =>
      rw [scan_letters plain, ih apart.tail]
      rfl
  | @literal ps ts cs ne allowed pieces rest ih =>
      have next : ∀ tok ∈ ts.head?, tok.isLiteral = false :=
        fun tok first => apart.rel_head? first rfl
      rw [scan_pieces ne pieces (head?_spells rest next), ih apart.tail]
      -- a field stands behind the text, if anything does
      cases ts with
      | nil => rfl
      | cons tok ts =>
          have field := next tok rfl
          cases tok with
          | literal l => cases field
          | _ => rfl

/-! ## §5. Spelling what is read. -/

/-- A piece that is put in front of a spelling joins the text behind it. -/
theorem Spells.cons {Allowed : Piece → Prop} {ts : List Token} {cs : List Char}
    (h : Spells Allowed ts cs) {p : Piece} (allowed : Allowed p)
    (closed : p.isQuoted = true → cs.head? ≠ some '\'') :
    Spells Allowed (consLiteral p.text ts) (p.written ++ cs) := by
  have alone {ts : List Token} {cs : List Char} (rest : Spells Allowed ts cs) :
      Spells Allowed (.literal p.text :: ts) (p.written ++ cs) := by
    have one := Spells.literal (List.cons_ne_nil p []) (by simpa using allowed)
      (List.IsChain.singleton p) rest
    simpa using one
  cases h with
  | nil => exact alone .nil
  | @field tok ts cs plain rest =>
      have joined : consLiteral p.text (tok :: ts) = .literal p.text :: tok :: ts := by
        cases tok with
        | literal l => cases plain
        | _ => rfl
      rw [joined]
      exact alone (.field plain rest)
  | @literal ps ts cs ne all apart rest =>
      have chain : IsChain Piece.Apart (p :: ps) := by
        refine apart.cons ?_
        intro q first quoted
        -- a quoted piece in front would be followed by a quote
        have no := closed quoted
        cases ps with
        | nil => cases first
        | cons q' ps =>
            have same : q' = q := Option.some.inj first
            rw [same, List.flatMap_cons, List.append_assoc, ne_eq, head?_written] at no
            exact Bool.eq_false_iff.2 no
      have both : ∀ q ∈ p :: ps, Allowed q := by
        intro q hq
        rcases List.mem_cons.1 hq with rfl | behind
        · exact allowed
        · exact all q behind
      have whole := Spells.literal (List.cons_ne_nil p ps) both chain rest
      rw [List.flatMap_cons, List.flatMap_cons, List.append_assoc] at whole
      exact whole

/-- Whether a text, inside quotes or outside, spells tokens: inside there is the
rest of a quoted piece in front. -/
def SpellsFrom (ts : List Token) (cs : List Char) : Bool → Prop
  | false => Spells (fun _ => True) ts cs
  | true => ∃ ds us r, Spells (fun _ => True) us r ∧ r.head? ≠ some '\'' ∧
      cs = doubleQuotes ds ++ '\'' :: r ∧ ts = consLiteral ds us

theorem SpellsFrom.cons {us : List Token} {cs : List Char} (h : SpellsFrom us cs true) (c : Char) :
    SpellsFrom (consLiteral [c] us) ((if c = '\'' then ['\'', '\''] else [c]) ++ cs) true := by
  obtain ⟨ds, vs, r, rest, closed, rfl, rfl⟩ := h
  refine ⟨c :: ds, vs, r, rest, closed, ?_, ?_⟩
  · by_cases quote : c = '\''
    · rw [doubleQuotes, if_pos quote, if_pos quote, quote]
      rfl
    · rw [doubleQuotes, if_neg quote, if_neg quote]
      rfl
  · rw [consLiteral_consLiteral]
    rfl

/-- **What is read is a spelling of the tokens.** -/
theorem spells_of_scan {quoted : Bool} {cs : List Char} {ts : List Token}
    (h : scan quoted cs = .ok ts) : SpellsFrom ts cs quoted := by
  have put {tok : Token} {r : List Char} (plain : tok.isLiteral = false)
      (ih : ∀ {us}, scan false r = .ok us → SpellsFrom us r false) {ts : List Token}
      (h : (scan false r).map (tok :: ·) = .ok ts) : SpellsFrom ts (tok.letters ++ r) false := by
    obtain ⟨us, hus, rfl⟩ := map_eq_ok h
    exact Spells.field plain (ih hus)
  fun_induction scan quoted cs generalizing ts with
  | case1 => cases h
  | case2 r ih =>
      obtain ⟨us, hus, rfl⟩ := map_eq_ok h
      exact (ih hus).cons '\''
  | case3 r next ih =>
      obtain ⟨us, hus, rfl⟩ := map_eq_ok h
      refine ⟨[], us, r, ih hus, ?_, rfl, rfl⟩
      intro first
      cases r with
      | nil => cases first
      | cons c r => exact next r (by rw [Option.some.inj first])
  | case4 c r _ other ih =>
      obtain ⟨us, hus, rfl⟩ := map_eq_ok h
      have quoted := (ih hus).cons c
      rw [if_neg other] at quoted
      exact quoted
  | case5 =>
      rw [← Except.ok.inj h]
      exact Spells.nil
  | case6 r ih =>
      obtain ⟨ds, us, r', rest, closed, rfl, rfl⟩ := ih h
      have whole := rest.cons (p := .quoted ds) trivial fun _ => closed
      simpa [SpellsFrom, Piece.text, Piece.written] using whole
  | case7 r ih => exact put rfl ih h
  | case8 r ih => exact put rfl ih h
  | case9 r ih => exact put rfl ih h
  | case10 r ih => exact put rfl ih h
  | case11 r ih => exact put rfl ih h
  | case12 r ih => exact put rfl ih h
  | case13 => cases h
  | case14 c r quote _ _ _ _ _ _ letter ih =>
      obtain ⟨us, hus, rfl⟩ := map_eq_ok h
      have plain : [c] ≠ [] ∧ ∀ d ∈ [c], isLetter d = false ∧ d ≠ '\'' := by
        simpa using ⟨Bool.eq_false_iff.2 letter, quote⟩
      exact Spells.cons (p := .bare [c] plain) (ih hus) trivial (by simp [Piece.isQuoted])

/-- **The texts that are read are the spellings** of tokens without
neighbouring literal texts. -/
theorem scan_eq_ok_iff (cs : List Char) (ts : List Token) :
    scan false cs = .ok ts ↔ IsChain Token.Apart ts ∧ Spells (fun _ => True) ts cs := by
  constructor
  · intro read
    exact ⟨apart_of_scan read, spells_of_scan read⟩
  · intro spelt
    exact scan_of_spells spelt.2 spelt.1

/-! ## §6. Empty quotes. -/

theorem count_doubleQuotes (cs : List Char) : (doubleQuotes cs).count '\'' % 2 = 0 := by
  induction cs with
  | nil => rfl
  | cons c cs ih =>
      by_cases quote : c = '\''
      · rw [doubleQuotes, if_pos quote, quote, List.count_cons_self, List.count_cons_self]
        omega
      · rw [doubleQuotes, if_neg quote, List.count_cons_of_ne quote]
        exact ih

theorem quote_notMem_letters (tok : Token) : '\'' ∉ tok.letters := by
  cases tok with
  | literal l => exact List.not_mem_nil
  | _ => decide

/-- The quotes of a piece come in pairs. -/
theorem count_written (p : Piece) : p.written.count '\'' % 2 = 0 := by
  cases p with
  | bare cs plain =>
      have none : cs.count '\'' = 0 :=
        List.count_eq_zero.2 fun quote => (plain.2 _ quote).2 rfl
      show cs.count '\'' % 2 = 0
      rw [none]
  | quoted cs =>
      have inside := count_doubleQuotes cs
      show ('\'' :: (doubleQuotes cs ++ ['\''])).count '\'' % 2 = 0
      rw [List.count_cons_self, List.count_append, List.count_singleton_self]
      omega

theorem count_pieces (ps : List Piece) : (ps.flatMap Piece.written).count '\'' % 2 = 0 := by
  induction ps with
  | nil => rfl
  | cons p ps ih =>
      have first := count_written p
      rw [List.flatMap_cons, List.count_append]
      omega

/-- A piece without text is a pair of quotes. -/
theorem eq_quoted_of_text {p : Piece} (h : p.text = []) : p = .quoted [] := by
  cases p with
  | bare cs plain => exact absurd h plain.1
  | quoted cs =>
      have empty : cs = [] := h
      rw [empty]

theorem ne_quote_iff (o : Option Char) : o ≠ some '\'' ↔ ∀ c ∈ o, c ≠ '\'' := by
  cases o <;> simp

/-- The last piece in front of a quoted one ends with no quote. -/
theorem getLast?_pieces {ps qs : List Piece} {p : Piece}
    (apart : IsChain Piece.Apart (ps ++ p :: qs)) (quoted : p.isQuoted = true) :
    (ps.flatMap Piece.written).getLast? ≠ some '\'' := by
  rcases List.eq_nil_or_concat ps with rfl | ⟨rs, last, rfl⟩
  · simp
  · rw [List.concat_eq_append] at apart ⊢
    cases last with
    | quoted cs =>
        rw [List.append_assoc] at apart
        have no := apart.right_of_append.rel_head? rfl rfl
        rw [quoted] at no
        cases no
    | bare cs plain =>
        rw [List.flatMap_append, List.flatMap_singleton]
        intro same
        rw [Piece.written, List.getLast?_append_of_ne_nil _ plain.1] at same
        exact (plain.2 _ (List.mem_of_mem_getLast? same)).2 rfl

/-- Such quotes stay so behind a text whose quotes come in pairs, if they do not
meet a character of it that may not stand beside them. -/
theorem HasQuotes.append {Beside : Char → Prop} {front cs : List Char} (h : HasQuotes Beside cs)
    (even : front.count '\'' % 2 = 0)
    (meets : cs.head? = some '\'' → ∀ c ∈ front.getLast?, Beside c) :
    HasQuotes Beside (front ++ cs) := by
  obtain ⟨u, v, rfl, count, last, next⟩ := h
  refine ⟨front ++ u, v, (List.append_assoc _ _ _).symm, ?_, ?_, next⟩
  · rw [List.count_append]
    omega
  · cases u with
    | nil =>
        rw [List.append_nil]
        exact meets rfl
    | cons c u =>
        rw [List.getLast?_append_of_ne_nil _ (List.cons_ne_nil c u)]
        exact last

/-- **Without empty quotes every piece of a spelling has some text.** -/
theorem filled_of_spells {ts : List Token} {cs : List Char} (h : Spells (fun _ => True) ts cs)
    (apart : IsChain Token.Apart ts) : Spells Piece.IsFilled ts cs ∨ HasEmptyQuotes cs := by
  induction h with
  | nil => exact .inl .nil
  | @field tok ts cs plain rest ih =>
      rcases ih apart.tail with filled | empty
      · exact .inl (.field plain filled)
      · have no := quote_notMem_letters tok
        refine .inr (HasQuotes.append empty ?_ fun _ c last same => ?_)
        · rw [List.count_eq_zero.2 no]
        · rw [same] at last
          exact no (List.mem_of_mem_getLast? last)
  | @literal ps ts cs ne _ pieces rest ih =>
      have closed : cs.head? ≠ some '\'' :=
        head?_spells rest fun tok first => apart.rel_head? first rfl
      by_cases all : ∀ p ∈ ps, p.IsFilled
      · rcases ih apart.tail with filled | empty
        · exact .inl (.literal ne all pieces filled)
        · exact .inr (HasQuotes.append empty (count_pieces ps) fun first => absurd first closed)
      · -- a piece without text is a pair of quotes between pieces that are bare
        simp only [not_forall] at all
        obtain ⟨p, hp, noText⟩ := all
        have quotes := eq_quoted_of_text (not_not.1 noText)
        obtain ⟨qs, rs, split⟩ := List.append_of_mem hp
        rw [split, quotes] at pieces
        refine .inr ⟨qs.flatMap Piece.written, rs.flatMap Piece.written ++ cs, ?_,
          count_pieces qs, (ne_quote_iff _).1 (getLast?_pieces pieces rfl),
          (ne_quote_iff _).1 (head?_pieces pieces.right_of_append closed rfl)⟩
        rw [split, quotes, List.flatMap_append, List.flatMap_cons, List.append_assoc,
          List.append_assoc]
        rfl

/-! ## §7. Compiling. -/

/-- Pieces that have some text make no empty literal text. -/
theorem literal_nil_notMem {ts : List Token} {cs : List Char} (h : Spells Piece.IsFilled ts cs) :
    .literal [] ∉ ts := by
  induction h with
  | nil => exact List.not_mem_nil
  | field plain rest ih =>
      intro present
      rcases List.mem_cons.1 present with rfl | behind
      · cases plain
      · exact ih behind
  | @literal ps ts cs ne filled pieces rest ih =>
      intro present
      rcases List.mem_cons.1 present with first | behind
      · have noText := List.flatMap_eq_nil_iff.1 (Token.literal.inj first).symm
        cases ps with
        | nil => exact ne rfl
        | cons p ps => exact filled p List.mem_cons_self (noText p List.mem_cons_self)
      · exact ih behind

/-- A text compiles if it is read as tokens, of which there are some. -/
theorem compile_eq_ok_iff (source : String) (p : DatePattern) :
    compile source = .ok p ↔ p.source = source ∧ p.tokens ≠ [] ∧
      scan false source.toList = .ok p.tokens := by
  unfold compile
  by_cases empty : source = ""
  · rw [if_pos empty, empty]
    constructor
    · intro h
      cases h
    · intro h
      obtain ⟨-, some, read⟩ := h
      exact absurd (Except.ok.inj read).symm some
  · rw [if_neg empty]
    constructor
    · intro h
      obtain ⟨ts, read, rfl⟩ := map_eq_ok h
      refine ⟨rfl, ?_, read⟩
      intro none
      have none : ts = [] := none
      have spelt : Spells (fun _ => True) ts source.toList := spells_of_scan read
      rw [none] at spelt
      cases text : source.toList with
      | nil => exact empty (String.toList_eq_nil_iff.1 text)
      | cons c cs =>
          rw [text] at spelt
          cases spelt
    · intro h
      obtain ⟨same, -, read⟩ := h
      rw [read, ← same]
      rfl

/-- **Spellings without empty pieces compile to their tokens, and where no empty
quotes stand nothing else does.** -/
theorem compile_spelling (source : String) :
    (∀ ts, IsNormal ts → Spells Piece.IsFilled ts source.toList →
      compile source = .ok ⟨source, ts⟩) ∧
      ((¬∃ ts, IsNormal ts ∧ Spells Piece.IsFilled ts source.toList) →
        ¬HasEmptyQuotes source.toList → ∃ e, compile source = .error e) := by
  constructor
  · intro ts normal spelt
    exact (compile_eq_ok_iff source _).2 ⟨rfl, normal.ne_nil, scan_of_spells spelt normal.apart⟩
  · intro none noQuotes
    cases result : compile source with
    | error e => exact ⟨e, rfl⟩
    | ok p =>
        obtain ⟨-, some, read⟩ := (compile_eq_ok_iff source p).1 result
        obtain ⟨apart, spelt⟩ := (scan_eq_ok_iff _ _).1 read
        rcases filled_of_spells spelt apart with filled | empty
        · exact absurd ⟨p.tokens, ⟨some, apart, literal_nil_notMem filled⟩, filled⟩ none
        · exact absurd empty noQuotes

/-- A clock with its quotes, and a year that lacks a letter. -/
theorem compile_spelling_clock :
    compile "'o''clock 'HH-'''M'mm" = .ok ⟨"'o''clock 'HH-'''M'mm",
        [.literal "o'clock ".toList, .hour, .literal "-'M".toList, .minute]⟩ ∧
      ∃ e, compile "yyy/MM" = .error e := by
  constructor
  · refine (compile_spelling "'o''clock 'HH-'''M'mm").1 _ ⟨by decide, ?_, by decide⟩ ?_
    · simp [Token.Apart, Token.isLiteral]
    · have minute : Spells Piece.IsFilled [.minute] ['m', 'm'] := .field rfl .nil
      have plain : ['-'] ≠ [] ∧ ∀ c ∈ ['-'], isLetter c = false ∧ c ≠ '\'' :=
        ⟨List.cons_ne_nil _ _, List.forall_mem_singleton.2 ⟨rfl, by decide⟩⟩
      have dash := @Spells.literal Piece.IsFilled [.bare ['-'] plain, .quoted ['\'', 'M']]
        _ _ (List.cons_ne_nil _ _) (by simp [Piece.IsFilled, Piece.text])
        (by simp [Piece.Apart, Piece.isQuoted]) minute
      have hour := @Spells.field _ .hour _ _ rfl dash
      exact @Spells.literal _ [.quoted "o'clock ".toList] _ _ (by decide)
        (by simp [Piece.IsFilled, Piece.text]) (.singleton _) hour
  · refine (compile_spelling "yyy/MM").2 ?_ ?_
    · intro spelt
      obtain ⟨ts, normal, spells⟩ := spelt
      have compiled := (compile_spelling "yyy/MM").1 ts normal spells
      cases compiled
    · intro quotes
      obtain ⟨u, v, split, -⟩ := quotes
      have quote : '\'' ∈ "yyy/MM".toList := by
        rw [split]
        simp
      exact absurd quote (by decide)

end Recordwise.DatePattern
