import FieldAccess.Proofs.Gaps
import FieldAccess.Yaml.Token

/-!
# Runs of the scan of a YAML text

Tokens wait while a node may still turn out to be a key, and the collections that are written by
indentation are closed when a line is less deep. A scan that pauses behind a value gives the tokens
that wait, then the ends of the collections deeper than the next token, and what follows depends
only on the text from the next token on, its column and the open collections.

## Main definitions

* `Scan.Gives` – the tokens that a scan gives.
* `Scan.StartsAt` – the tokens of a text that starts at a column, in whatever scan.
* `Scan.Pauses` – a scan between two tokens.

## Main statements

* `Scan.gives_front` – tokens in front of a node that may be a key are given at once.
* `Scan.Pauses.gives` – a scan between two tokens goes on.
-/

namespace FieldAccess.Yaml

/-- A text that does not go on with what may stand between two tokens. -/
def StartsToken (rest : List Char) : Prop :=
  ∀ d ∈ rest.head?, isGap d = false ∧ d ≠ '#' ∧ d ≠ '\ufeff'

theorem StartsToken.stopsGap {rest : List Char} (h : StartsToken rest) : StopsGap rest :=
  fun d hd => (h d hd).1

namespace Scan

variable {s t : Scan} {expected : List Token} {n : Nat}

/-- A scan gives the expected tokens and no fault within a number of steps. -/
def Gives (s : Scan) (expected : List Token) (n : Nat) : Prop :=
  ∀ limit, n ≤ limit → (tokens limit s).1.map Prod.fst = expected ∧ (tokens limit s).2 = none

theorem Gives.mono {m : Nat} (h : s.Gives expected n) (hle : n ≤ m) : s.Gives expected m :=
  fun limit hlimit => h limit (Nat.le_trans hle hlimit)

/-! ### Single steps -/

theorem gives_of_advance (hqueue : s.queue = []) (hadvance : s.advance = .ok t)
    (h : t.Gives expected n) : s.Gives expected (n + 1) := by
  intro limit hlimit
  obtain ⟨limit, rfl⟩ : ∃ m, limit = m + 1 := ⟨limit - 1, by omega⟩
  rw [tokens, hqueue, hadvance]
  exact h limit (by omega)

/-- The waiting tokens stay while the first one may be a key. -/
theorem gives_of_held {fresh : Scan} (hqueue : s.queue ≠ []) (hfresh : s.dropStale = .ok fresh)
    (hheld : fresh.isHeld = true) (hadvance : fresh.advance = .ok t) (h : t.Gives expected n) :
    s.Gives expected (n + 1) := by
  intro limit hlimit
  obtain ⟨limit, rfl⟩ : ∃ m, limit = m + 1 := ⟨limit - 1, by omega⟩
  obtain ⟨first, queue, hcons⟩ := List.exists_cons_of_ne_nil hqueue
  rw [tokens, hcons]
  simp only [hfresh, hheld, if_true, hadvance]
  exact h limit (by omega)

theorem gives_of_first {fresh : Scan} {first : Token × Mark} {queue : List (Token × Mark)}
    (hqueue : s.queue = first :: queue) (hfirst : first.1 ≠ .streamEnd)
    (hfresh : s.dropStale = .ok fresh) (hheld : fresh.isHeld = false)
    (h : Gives { fresh with queue, delivered := fresh.delivered + 1 } expected n) :
    s.Gives (first.1 :: expected) (n + 1) := by
  intro limit hlimit
  obtain ⟨limit, rfl⟩ : ∃ m, limit = m + 1 := ⟨limit - 1, by omega⟩
  obtain ⟨hrest, hfault⟩ := h limit (by omega)
  rw [tokens, hqueue]
  simp only [hfresh, hheld, Bool.false_eq_true, if_false, if_neg hfirst]
  exact ⟨congrArg (first.1 :: ·) hrest, hfault⟩

/-! ### Waiting tokens -/

theorem dropStale_of_fresh (houter : s.outer = [])
    (hpending : ∀ key ∈ s.pending, isStale s.cursor key = false) : s.dropStale = .ok s := by
  obtain ⟨cursor, pending, outer, columns, keyAllowed, queue, delivered⟩ := s
  cases houter
  cases pending with
  | none => rfl
  | some key =>
    have hkey := hpending key rfl
    simp only [dropStale, freshen, hkey, List.mapM_nil, bind, Except.bind, pure, Except.pure,
      Bool.not_false, if_true]

/-- **Waiting tokens.** The tokens in front of a node that may be a key are given at once. -/
theorem gives_front {front back : List (Token × Mark)} (hqueue : s.queue = front ++ back)
    (houter : s.outer = [])
    (hpending : ∀ key ∈ s.pending,
      isStale s.cursor key = false ∧ s.delivered + front.length ≤ key.token)
    (hfront : ∀ first ∈ front, first.1 ≠ .streamEnd)
    (h : Gives { s with queue := back, delivered := s.delivered + front.length } expected n) :
    s.Gives (front.map Prod.fst ++ expected) (n + front.length) := by
  induction front generalizing s with
  | nil =>
    obtain ⟨cursor, pending, outer, columns, keyAllowed, queue, delivered⟩ := s
    cases hqueue
    exact h
  | cons first front ih =>
    have hfresh := dropStale_of_fresh houter fun key hkey => (hpending key hkey).1
    have hheld : s.isHeld = false := by
      rw [isHeld, houter]
      cases hp : s.pending with
      | none => rfl
      | some key =>
        have htoken := (hpending key hp).2
        rw [List.length_cons] at htoken
        have hne : key.token ≠ s.delivered := by omega
        simp [hne]
    refine gives_of_first hqueue (hfront first List.mem_cons_self) hfresh hheld (ih rfl houter ?_
      (fun later hlater => hfront later (List.mem_cons_of_mem _ hlater)) ?_)
    · intro key hkey
      have hboth := hpending key hkey
      rw [List.length_cons] at hboth
      exact ⟨hboth.1, by change s.delivered + 1 + front.length ≤ key.token; omega⟩
    · rw [List.length_cons] at h
      change Gives { s with queue := back, delivered := s.delivered + 1 + front.length } expected n
      rwa [Nat.add_right_comm, Nat.add_assoc]

/-! ### Open collections -/

/-- The tokens that close the collections deeper than a column. -/
def closings (columns : List Nat) (column : Nat) : List Token :=
  List.replicate (columns.takeWhile fun deeper => column < deeper).length .blockEnd

/-- The collections that are not deeper than a column. -/
def around (columns : List Nat) (column : Nat) : List Nat :=
  columns.dropWhile fun deeper => column < deeper

section Columns

variable {columns : List Nat} {column deeper : Nat}

theorem closings_of_lt (h : column < deeper) :
    closings (deeper :: columns) column = .blockEnd :: closings columns column := by
  rw [closings, List.takeWhile_cons_of_pos (by simpa using h)]
  rfl

theorem around_of_lt (h : column < deeper) :
    around (deeper :: columns) column = around columns column :=
  List.dropWhile_cons_of_pos (by simpa using h)

theorem closings_of_le (h : deeper ≤ column) : closings (deeper :: columns) column = [] := by
  rw [closings, List.takeWhile_cons_of_neg (by simpa using h)]
  rfl

theorem around_of_le (h : deeper ≤ column) :
    around (deeper :: columns) column = deeper :: columns :=
  List.dropWhile_cons_of_neg (by simpa using h)

/-- The collections deeper than a column are closed. -/
theorem closeColumns_eq (houter : s.outer = []) (column : Nat) : s.closeColumns column =
    { s with columns := around s.columns column
             queue := s.queue ++
               (closings s.columns column).map fun token => (token, s.cursor.mark) } := by
  have hdeeper : (s.columns.takeWhile fun (deeper : Nat) => (column : Int) < (deeper : Int)) =
      s.columns.takeWhile fun deeper => column < deeper := by simp
  have hflow : s.inFlow = false := by rw [inFlow, houter]; rfl
  have hleft : s.columns.drop (s.columns.takeWhile fun deeper => column < deeper).length =
      around s.columns column := by
    conv_lhs =>
      arg 2
      rw [← List.takeWhile_append_dropWhile (p := fun deeper => column < deeper) (l := s.columns)]
    exact List.drop_left
  rw [closeColumns, hflow, if_neg Bool.false_ne_true]
  simp only [hdeeper, hleft, closings, List.map_replicate, List.map_const']

/-- No collection is closed by a token that is not less deep than the innermost one. -/
theorem closeColumns_of_le (houter : s.outer = []) (h : ∀ top ∈ s.columns.head?, top ≤ column) :
    s.closeColumns column = s := by
  rw [closeColumns_eq houter]
  obtain ⟨cursor, pending, outer, columns, keyAllowed, queue, delivered⟩ := s
  cases columns with
  | nil => simp [closings, around]
  | cons top columns => simp [closings_of_le (h top rfl), around_of_le (h top rfl)]

end Columns

/-! ### Between two tokens -/

/-- A text that starts at a column gives the expected tokens behind those that wait, wherever a scan
with the given open collections meets it. -/
def StartsAt (columns : List Nat) (column : Nat) (rest : List Char) (expected : List Token)
    (n : Nat) : Prop :=
  ∀ (c : Cursor) (queue : List (Token × Mark)) (delivered : Nat), c.rest = rest →
    c.column = column → (∀ first ∈ queue, first.1 ≠ .streamEnd) →
      ∃ t, token { cursor := c, columns, queue, delivered } = .ok t ∧
        t.Gives (queue.map Prod.fst ++ expected) (n + queue.length)

theorem StartsAt.mono {columns : List Nat} {column m : Nat} {rest : List Char}
    (h : StartsAt columns column rest expected n) (hle : n ≤ m) :
    StartsAt columns column rest expected m := by
  intro c queue delivered hrest hcolumn hsolid
  obtain ⟨t, htoken, hgives⟩ := h c queue delivered hrest hcolumn hsolid
  exact ⟨t, htoken, hgives.mono (by omega)⟩

/-- The place of the next token: on the same line, where a key may start already, or on the next
line. -/
inductive Leads (c : Cursor) : (keyAllowed : Bool) → (line column : Nat) → List Char → Prop
  | here {m : Nat} {rest : List Char} (h : c.rest = spaces m ++ rest) :
      Leads c true c.line (c.column + m) rest
  | nextLine {keyAllowed : Bool} {column : Nat} {rest : List Char}
      (h : c.rest = '\n' :: (spaces column ++ rest)) : Leads c keyAllowed (c.line + 1) column rest

/-- A scan between two tokens outside of brackets. A node that may be a key is none, as the next
token stands on a later line. -/
structure Pauses (s : Scan) (column : Nat) (rest : List Char) : Prop where
  outer : s.outer = []
  solid : ∀ first ∈ s.queue, first.1 ≠ .streamEnd
  leads : ∃ line, Leads s.cursor s.keyAllowed line column rest ∧
    ∀ key ∈ s.pending, key.required = false ∧ key.line < line

section Skipping

variable {rest : List Char} {m column line limit : Nat}

/-- Spaces in front of a token are skipped. -/
theorem skipToToken_spaces (hrest : StartsToken rest)
    (h : s.cursor.rest = spaces m ++ rest) (hlimit : s.cursor.rest.length ≤ limit) :
    skipToToken limit s = { s with cursor := s.cursor.advance m } := by
  have hsolid : ∀ d ∈ rest.head?, d ≠ ' ' ∧ d ≠ '\t' ∧ isBreak d = false := fun d hd => by
    have hgap := (hrest d hd).1
    simpa [isGap, isBlank, and_assoc] using hgap
  cases limit with
  | zero =>
    have hlength : s.cursor.rest.length = m + rest.length := by simp [h]
    obtain rfl : m = 0 := by omega
    rfl
  | succ limit =>
    have hmark : s.cursor.rest.head? ≠ some '\ufeff' := by
      cases m with
      | zero =>
        have hrest' : s.cursor.rest = rest := h
        rw [hrest']
        exact fun hhead => (hrest _ hhead).2.2 rfl
      | succ m =>
        rw [h]
        exact fun hhead => absurd hhead (by simp [spaces, List.replicate_succ])
    have hskip : (s.cursor.skipWhile fun d =>
        d = ' ' || ((s.inFlow || !s.keyAllowed) && d = '\t')) = s.cursor.advance m := by
      have htake : (s.cursor.rest.takeWhile fun d =>
          d = ' ' || ((s.inFlow || !s.keyAllowed) && d = '\t')) = spaces m := by
        have hnil : (rest.takeWhile fun d =>
            d = ' ' || ((s.inFlow || !s.keyAllowed) && d = '\t')) = [] := by
          cases rest with
          | nil => rfl
          | cons d rest =>
            obtain ⟨hspace, htab, -⟩ := hsolid d rfl
            simp [hspace, htab]
        rw [h, List.takeWhile_append_of_pos, hnil, List.append_nil]
        intro d hd
        rw [List.eq_of_mem_replicate hd]
        rfl
      rw [Cursor.skipWhile, htake, length_spaces]
    have hafter : (s.cursor.advance m).rest = rest := by
      have hafter := Cursor.rest_advance_length h
      rwa [length_spaces] at hafter
    have hcomment : rest.head? ≠ some '#' := fun hhead => (hrest _ hhead).2.1 rfl
    have hbreak : rest.head?.any isBreak = false := by
      cases hhead : rest.head? with
      | none => rfl
      | some d => exact (hsolid d hhead).2.2
    rw [skipToToken]
    simp only [hmark, decide_false, Bool.and_false, Bool.false_eq_true, if_false, hskip, hafter,
      hcomment, hbreak]

/-- The next token is found where the scan leads to. -/
theorem skipToToken_of_leads (houter : s.outer = []) (hrest : StartsToken rest)
    (h : Leads s.cursor s.keyAllowed line column rest) (hlimit : s.cursor.rest.length ≤ limit) :
    ∃ c, skipToToken limit s = { s with cursor := c, keyAllowed := true } ∧ c.rest = rest ∧
      c.line = line ∧ c.column = column := by
  obtain ⟨cursor, pending, outer, columns, keyAllowed, queue, delivered⟩ := s
  cases houter
  cases h with
  | @here m _ h =>
    have hafter := Cursor.rest_advance_length h
    rw [length_spaces] at hafter
    exact ⟨cursor.advance m, skipToToken_spaces hrest h hlimit, hafter, rfl, rfl⟩
  | nextLine h =>
    obtain ⟨limit, rfl⟩ : ∃ m, limit = m + 1 := by
      refine ⟨limit - 1, ?_⟩
      change cursor.rest.length ≤ limit at hlimit
      rw [h, List.length_cons] at hlimit
      omega
    have hnext := Cursor.next_of_isBreak h (by decide) (by decide)
    have hnextRest : cursor.next.rest = spaces column ++ rest := by rw [hnext]
    have hshort : cursor.next.rest.length ≤ limit := by
      change cursor.rest.length ≤ limit + 1 at hlimit
      rw [h, List.length_cons, ← hnextRest] at hlimit
      omega
    have hafter := Cursor.rest_advance_length hnextRest
    rw [length_spaces] at hafter
    have hcursor : cursor.rest = '\n' :: (spaces column ++ rest) := h
    have hskip : (cursor.skipWhile fun d => d = ' ' || (!keyAllowed && d = '\t')) = cursor := by
      rw [Cursor.skipWhile, hcursor, List.takeWhile_cons_of_neg (by simp)]
      rfl
    refine ⟨cursor.next.advance column, ?_, hafter, ?_, ?_⟩
    · have hspaces : skipToToken limit
          { cursor := cursor.next, pending, columns, queue, delivered } = _ :=
        skipToToken_spaces hrest hnextRest hshort
      rw [skipToToken]
      simp only [inFlow, List.isEmpty_nil, Bool.not_true, Bool.not_false, Bool.false_or,
        Bool.or_true]
      simp [hskip, hcursor, isBreak, hspaces]
    · rw [hnext]
      rfl
    · rw [hnext, Cursor.column_advance, Nat.zero_add]

end Skipping

/-! ### Going on -/

/-- A node that need not be a key is forgotten when it can no longer be one. -/
theorem dropStale_of_optional (houter : s.outer = [])
    (hpending : ∀ key ∈ s.pending, key.required = false) :
    s.dropStale = .ok { s with
      pending := s.pending.filter fun key => !isStale s.cursor key } := by
  obtain ⟨cursor, pending, outer, columns, keyAllowed, queue, delivered⟩ := s
  cases houter
  cases pending with
  | none => rfl
  | some key =>
    have hrequired : key.required = false := hpending key rfl
    cases hstale : isStale cursor key <;>
      simp [dropStale, freshen, hstale, hrequired, Option.filter, bind, Except.bind, pure,
        Except.pure]

namespace Pauses

variable {column : Nat} {rest : List Char}

/-- The next token is read behind those that wait and the ends of the collections before it. -/
theorem advance_eq (h : s.Pauses column rest) (hrest : StartsToken rest)
    (hstart : StartsAt (around s.columns column) column rest expected n) :
    ∃ t, s.advance = .ok t ∧
      t.Gives (s.queue.map Prod.fst ++ (closings s.columns column ++ expected))
        (n + (closings s.columns column).length + s.queue.length) := by
  obtain ⟨line, hleads, hpending⟩ := h.leads
  obtain ⟨c, hskip, hcRest, hcLine, hcColumn⟩ :=
    skipToToken_of_leads h.outer hrest hleads (Nat.le_refl _)
  have hfresh := dropStale_of_optional (s := { s with cursor := c, keyAllowed := true }) h.outer
    fun key hkey => (hpending key hkey).1
  have hnone : (s.pending.filter fun key => !isStale c key) = none := by
    cases hkey : s.pending with
    | none => rfl
    | some key =>
      have hbefore := (hpending key hkey).2
      simp [Option.filter, isStale, hcLine, hbefore]
  have hclose := closeColumns_eq (s := { s with cursor := c, keyAllowed := true, pending := none })
    h.outer column
  have hqueue : ∀ first ∈ s.queue ++
      (closings s.columns column).map fun token => (token, c.mark), first.1 ≠ .streamEnd := by
    intro first hfirst
    rcases List.mem_append.1 hfirst with hfirst | hfirst
    · exact h.solid first hfirst
    · obtain ⟨token, htoken, rfl⟩ := List.mem_map.1 hfirst
      rw [List.eq_of_mem_replicate htoken]
      exact nofun
  obtain ⟨t, htoken, ht⟩ := hstart c _ s.delivered hcRest hcColumn hqueue
  refine ⟨t, ?_, ?_⟩
  · simp only [advance, hskip, hfresh, hnone, hcColumn, hclose, bind, Except.bind]
    rw [← htoken, h.outer]
  · have hnames : (closings s.columns column).map (Prod.fst ∘ fun token => (token, c.mark)) =
        closings s.columns column := List.map_id _
    simp only [List.map_append, List.map_map, hnames, List.length_append, List.length_map,
      List.append_assoc] at ht
    exact ht.mono (by omega)

/-- **Pauses.** A scan between two tokens gives those that wait, closes the collections that are
deeper than the next one, and goes on. -/
theorem gives (h : s.Pauses column rest) (hrest : StartsToken rest)
    (hstart : StartsAt (around s.columns column) column rest expected n) :
    s.Gives (s.queue.map Prod.fst ++ (closings s.columns column ++ expected))
      (n + (closings s.columns column).length + s.queue.length + 1) := by
  induction hqueue : s.queue generalizing s with
  | nil =>
    obtain ⟨t, hadvance, ht⟩ := h.advance_eq hrest hstart
    rw [hqueue] at ht
    exact gives_of_advance hqueue hadvance ht
  | cons first queue ih =>
    obtain ⟨line, hleads, hpending⟩ := h.leads
    have hfresh := dropStale_of_optional h.outer fun key hkey => (hpending key hkey).1
    have hkept : ∀ key ∈ s.pending.filter fun key => !isStale s.cursor key,
        key.required = false ∧ key.line < line := fun key hkey =>
      hpending key (Option.mem_filter_iff.1 hkey).1
    cases hheld : isHeld
        { s with pending := s.pending.filter fun key => !isStale s.cursor key } with
    | true =>
      have hfreshPauses : Pauses
          { s with pending := s.pending.filter fun key => !isStale s.cursor key } column rest :=
        ⟨h.outer, h.solid, line, hleads, hkept⟩
      obtain ⟨t, hadvance, ht⟩ := hfreshPauses.advance_eq hrest hstart
      rw [← hqueue]
      exact gives_of_held (by simp [hqueue]) hfresh hheld hadvance ht
    | false =>
      have hsolid : ∀ later ∈ queue, later.1 ≠ .streamEnd := fun later hlater =>
        h.solid later (hqueue ▸ List.mem_cons_of_mem _ hlater)
      have hlater := ih (s := { s with
        pending := s.pending.filter fun key => !isStale s.cursor key
        queue, delivered := s.delivered + 1 }) ⟨h.outer, hsolid, line, hleads, hkept⟩ hstart rfl
      have hfirst := gives_of_first hqueue (h.solid first (hqueue ▸ List.mem_cons_self)) hfresh
        hheld hlater
      exact hfirst

end Pauses

end Scan

end FieldAccess.Yaml
