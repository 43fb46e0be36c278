import FieldAccess.Proofs.UrlPaths
import Mathlib.Data.List.TakeDrop

/-!
# Addresses that go on

What is read when more is written behind an address. Blanks at the end of an address do not count,
but they do as soon as something follows. The scheme, the user, the host and the port stay as they
are if the address goes on behind a slash; what follows is part of the path, unless the address has
a query or a fragment.

## Main definitions

* `Url.opened`, `Url.trailing` – a text that is cleaned except at its end, and what stands there.

## Main statements

* `Url.cleaned_append` – the cleaning of a text that goes on.
* `Url.readAuthority_append` – reading of the part from the path on.
* `Url.Continued`, `Url.exists_continued` – reading of an address and of those that go on.
-/

namespace FieldAccess

namespace Net.Url

open Text

theorem exists_of_map_eq_ok {α β : Type} {x : Except AddressFault α} {f : α → β} {b : β}
    (h : x.map f = .ok b) : ∃ a, x = .ok a ∧ f a = b := by
  cases x with
  | error fault => cases h
  | ok a => exact ⟨a, rfl, Except.ok.inj h⟩

/-! ### Cleaning -/

/-- Whether a character is a blank or control character, which does not count around an address. -/
def isEdge (c : Char) : Bool := c.toNat ≤ 0x20

/-- Whether a character counts within an address. -/
def isInner (c : Char) : Bool := c != '\t' && c != '\n' && c != '\r'

/-- A text that is cleaned except at its end. -/
def opened (text : List Char) : List Char := (text.dropWhile isEdge).filter isInner

/-- The blanks at the end of a text that count if something follows. -/
def trailing (text : List Char) : List Char :=
  ((text.dropWhile isEdge).rtakeWhile isEdge).filter isInner

theorem cleaned_append_trailing (text : List Char) : cleaned text ++ trailing text = opened text :=
  calc cleaned text ++ trailing text
    _ = ((text.dropWhile isEdge).rdropWhile isEdge).filter isInner ++
          ((text.dropWhile isEdge).rtakeWhile isEdge).filter isInner := rfl
    _ = opened text := by
      rw [← List.filter_append, List.rdropWhile_append_rtakeWhile, opened]

theorem toNat_le_of_mem_trailing {text : List Char} {c : Char} (hc : c ∈ trailing text) :
    c.toNat ≤ 0x20 := by
  have hedge := List.mem_rtakeWhile_imp (List.mem_filter.1 hc).1
  simpa [isEdge] using hedge

section Cleaning

variable {more : List Char}

theorem dropWhile_append_solid (hmore : ∀ c ∈ more, 0x20 < c.toNat) (text : List Char) :
    (text ++ more).dropWhile isEdge = text.dropWhile isEdge ++ more := by
  by_cases hnil : text.dropWhile isEdge = []
  · have hall := List.dropWhile_eq_nil_iff.1 hnil
    rw [List.dropWhile_append_of_pos hall, hnil, List.nil_append]
    cases more with
    | nil => rfl
    | cons c more =>
      have hc := hmore c List.mem_cons_self
      exact List.dropWhile_cons_of_neg (by simp only [isEdge, decide_eq_true_eq]; omega)
  · exact dropWhile_append_of_ne_nil hnil more

/-- What follows a text is read behind all of it. -/
theorem cleaned_append (hmore : ∀ c ∈ more, 0x20 < c.toNat) (hne : more ≠ []) (text : List Char) :
    cleaned (text ++ more) = opened text ++ more ∧ trailing (text ++ more) = [] := by
  obtain ⟨init, last, rfl⟩ := (List.eq_nil_or_concat' more).resolve_left hne
  have hlast : ¬ isEdge last = true := by
    have hsolid := hmore last (by simp)
    simp only [isEdge, decide_eq_true_eq]
    omega
  have hinner : (init ++ [last]).filter isInner = init ++ [last] := by
    rw [List.filter_eq_self]
    intro c hc
    have hsolid := hmore c hc
    simp only [isInner, Bool.and_eq_true, bne_iff_ne]
    refine ⟨⟨?_, ?_⟩, ?_⟩ <;> rintro rfl <;> exact absurd hsolid (by decide)
  have hinit : text ++ (init ++ [last]) = (text ++ init) ++ [last] := by simp
  have hdrop : (text ++ (init ++ [last])).dropWhile isEdge =
      (text.dropWhile isEdge ++ init) ++ [last] := by
    rw [dropWhile_append_solid hmore, List.append_assoc]
  constructor
  · change (((text ++ (init ++ [last])).dropWhile isEdge).rdropWhile isEdge).filter isInner = _
    rw [hdrop, List.rdropWhile_concat_neg _ _ _ hlast, List.append_assoc, List.filter_append,
      hinner, opened]
  · rw [trailing, hdrop, List.rtakeWhile_concat_neg _ _ _ hlast, List.filter_nil]

end Cleaning

/-! ### Paths, queries and fragments -/

theorem withPath_of_path {path : List Char} (h : ∀ c ∈ path, endsPath c = false) (url : Url)
    (kind : SchemeKind) : withPath url kind path = { url with path := readPath kind path } := by
  have hspan : (path ++ []).span (fun c => !endsPath c) = (path, []) :=
    span_append (fun c hc => by simp [h c hc]) (by simp)
  rw [List.append_nil] at hspan
  rw [withPath, hspan]
  rfl

/-- Where a query or a fragment begins, nothing is read but the two. -/
theorem exists_withPath_of_mark {path : List Char} (h : ∀ c ∈ path, endsPath c = false)
    {mark : Char} (hmark : endsPath mark = true) (url : Url) (kind : SchemeKind)
    (text : List Char) :
    ∃ query fragment, withPath url kind (path ++ mark :: text) =
        { url with path := readPath kind path, query, fragment } ∧
      (query.isSome = true ∨ fragment.isSome = true) := by
  have hspan : (path ++ mark :: text).span (fun c => !endsPath c) = (path, mark :: text) :=
    span_append (fun c hc => by simp [h c hc]) (by simp [hmark])
  rw [withPath, hspan]
  obtain rfl | rfl : mark = '?' ∨ mark = '#' := by simpa [endsPath] using hmark
  · simp only [withTail]
    split <;> exact ⟨_, _, rfl, .inl rfl⟩
  · exact ⟨_, _, rfl, .inr rfl⟩

/-! ### Authorities -/

/-- Whether a text is an authority, without anything behind it. -/
def IsAuthority (text : List Char) : Prop := ∀ c ∈ text, endsAuthority .network c = false

/-- Whether a text can stand behind an authority. -/
def IsBehind (text : List Char) : Prop := ∀ c ∈ text.head?, endsAuthority .network c = true

theorem IsBehind.append {path more : List Char} (hpath : IsBehind path) (hmore : IsBehind more) :
    IsBehind (path ++ more) := by
  cases path with
  | nil => exact hmore
  | cons c path => exact hpath

variable {scheme : String} {authority rest : List Char}

theorem spanHost_append (inBrackets : Bool) (text : List Char) :
    (spanHost inBrackets text).1 ++ (spanHost inBrackets text).2 = text := by
  induction text generalizing inBrackets with
  | nil => rfl
  | cons c text ih =>
    rw [spanHost]
    split
    · rfl
    · exact congrArg (c :: ·) (ih _)

/-- The port is the last part of an authority. -/
theorem readPort_more {text : List Char} (h : IsAuthority text) {port : Option Nat}
    {more : List Char} (hread : readPort scheme text = .ok (port, more)) : more = [] := by
  obtain ⟨digits, rest, rfl, hdigits, hrest⟩ := exists_span isDigit text
  have hhead : rest.head? ≠ some '\\' := by
    intro hhead
    have hmem : '\\' ∈ digits ++ rest := List.mem_append_right _ (List.mem_of_mem_head? hhead)
    exact absurd (h '\\' hmem) (by decide)
  simp only [readPort, span_append hdigits hrest, hhead, decide_false, Bool.or_false] at hread
  split at hread
  · rename_i hempty
    rw [List.isEmpty_iff] at hempty
    split at hread
    · cases hread
    · split at hread
      · obtain ⟨-, rfl⟩ := Prod.mk.inj (Except.ok.inj hread)
        exact hempty
      · obtain ⟨-, rfl⟩ := Prod.mk.inj (Except.ok.inj hread)
        exact hempty
  · cases hread

theorem readHostAndPort_eq (scheme : String) (text : List Char) :
    readHostAndPort scheme .network text =
      if (spanHost false text).1 = [] then .error .emptyHost
      else (Host.read (spanHost false text).1).bind fun host =>
        match (spanHost false text).2 with
        | ':' :: port => (readPort scheme port).map fun found => (host, found)
        | _ => .ok (host, none, []) := by
  simp only [readHostAndPort, decide_true, Bool.true_or, Bool.and_true, List.isEmpty_iff,
    reduceCtorEq, if_false]
  split
  · rfl
  · cases hhost : Host.read (spanHost false text).1 with
    | error fault => rfl
    | ok host =>
      cases hrest : (spanHost false text).2 with
      | nil => rfl
      | cons c port =>
        by_cases hc : c = ':'
        · subst hc
          cases readPort scheme port <;> rfl
        · simp [hc, Except.bind, bind, pure, Except.pure]

theorem readHostAndPort_more {text : List Char} (h : IsAuthority text) {host : Host}
    {port : Option Nat} {more : List Char}
    (hread : readHostAndPort scheme .network text = .ok (host, port, more)) : more = [] := by
  have hspan := spanHost_append false text
  rw [readHostAndPort_eq] at hread
  split at hread
  · cases hread
  · cases hhost : Host.read (spanHost false text).1 with
    | error fault =>
      rw [hhost] at hread
      cases hread
    | ok found =>
      simp only [hhost, Except.bind] at hread
      split at hread
      · rename_i digits hrest
        have hdigits : IsAuthority digits := by
          intro c hc
          refine h c ?_
          rw [← hspan, hrest]
          simp [hc]
        obtain ⟨found, hport, hfound⟩ := exists_of_map_eq_ok hread
        obtain ⟨-, rfl⟩ := Prod.mk.inj hfound
        exact readPort_more hdigits hport
      · obtain ⟨-, hmore⟩ := Prod.mk.inj (Except.ok.inj hread)
        exact (Prod.mk.inj hmore).2.symm

/-- Reads an authority alone: a user, a host and a port. -/
def readBare (scheme : String) (authority : List Char) : Except AddressFault Url :=
  match splitUser? authority with
  | none =>
    (readHostAndPort scheme .network authority).map fun (host, port, _) =>
      { scheme, host := some host, port }
  | some (user, hostText) =>
    if hostText = [] then .error .emptyHost
    else
      (readHostAndPort scheme .network hostText).map fun (host, port, _) =>
        let (username, password) := readUser user
        { scheme, username, password, host := some host, port }

theorem readBare_fields {url : Url} (h : readBare scheme authority = .ok url) :
    url.scheme = scheme ∧ url.query = none ∧ url.fragment = none := by
  rw [readBare] at h
  split at h
  · obtain ⟨_, -, rfl⟩ := exists_of_map_eq_ok h
    exact ⟨rfl, rfl, rfl⟩
  · split at h
    · cases h
    · obtain ⟨_, -, rfl⟩ := exists_of_map_eq_ok h
      exact ⟨rfl, rfl, rfl⟩

theorem mem_of_splitUser? {user hostText : List Char}
    (h : splitUser? authority = some (user, hostText)) : ∀ c ∈ hostText, c ∈ authority := by
  simp only [splitUser?] at h
  split at h
  · obtain ⟨-, rfl⟩ := Prod.mk.inj (Option.some.inj h)
    intro c hc
    exact List.mem_reverse.1 ((List.takeWhile_sublist _).subset (List.mem_reverse.1 hc))
  · cases h

/-- What stands behind an authority is read on its own. -/
theorem readAuthority_append (hauthority : IsAuthority authority) (hrest : IsBehind rest) :
    readAuthority scheme .network (authority ++ rest) =
      (readBare scheme authority).map (withPath · .network rest) := by
  have hspan : (authority ++ rest).span (fun c => !endsAuthority .network c) = (authority, rest) :=
    span_append (fun c hc => by simp [hauthority c hc]) (fun c hc => by simp [hrest c hc])
  rw [readAuthority, hspan, readBare]
  dsimp only
  cases hsplit : splitUser? authority with
  | none =>
    dsimp only
    cases hread : readHostAndPort scheme .network authority with
    | error fault => rfl
    | ok found =>
      obtain ⟨host, port, more⟩ := found
      obtain rfl := readHostAndPort_more hauthority hread
      rfl
  | some parts =>
    obtain ⟨user, hostText⟩ := parts
    simp only [bne_self_eq_false, Bool.and_false, Bool.not_false, Bool.and_true, List.isEmpty_iff]
    split
    · rfl
    · cases hread : readHostAndPort scheme .network hostText with
      | error fault => rfl
      | ok found =>
        obtain ⟨host, port, more⟩ := found
        obtain rfl := readHostAndPort_more
          (fun c hc => hauthority c (mem_of_splitUser? hsplit c hc)) hread
        rfl

/-! ### Schemes -/

theorem scheme_withTail (url : Url) (kind : SchemeKind) (text : List Char) :
    (withTail url kind text).scheme = url.scheme := by
  simp only [withTail]
  split
  · split <;> rfl
  · split <;> rfl

theorem scheme_withPath (url : Url) (kind : SchemeKind) (text : List Char) :
    (withPath url kind text).scheme = url.scheme :=
  scheme_withTail _ kind _

theorem scheme_withDrive (url : Url) : (withDrive url).scheme = url.scheme := by
  rw [withDrive]
  split
  · split <;> rfl
  · rfl

theorem scheme_readAuthority {kind : SchemeKind} {text : List Char} {url : Url}
    (h : readAuthority scheme kind text = .ok url) : url.scheme = scheme := by
  simp only [readAuthority, bind, Except.bind, pure, Except.pure, throw, throwThe,
    MonadExceptOf.throw] at h
  split at h
  · split at h
    · cases h
    · rw [← Except.ok.inj h, scheme_withPath]
  · split at h
    · cases h
    · split at h
      · cases h
      · rw [← Except.ok.inj h, scheme_withPath]

theorem scheme_readFile {text : List Char} {url : Url} (h : readFile text = .ok url) :
    url.scheme = "file" := by
  rw [readFile.eq_def] at h
  simp only [bind, Except.bind, pure, Except.pure] at h
  repeat' split at h
  all_goals
    first
    | rw [← Except.ok.inj h]
    | cases h
  all_goals simp only [scheme_withDrive, scheme_withPath]

theorem scheme_readOther {text : List Char} {url : Url} (h : readOther scheme text = .ok url) :
    url.scheme = scheme := by
  rw [readOther.eq_def] at h
  split at h
  · exact scheme_readAuthority h
  · rw [← Except.ok.inj h, scheme_withTail]
  · rw [← Except.ok.inj h, scheme_withTail]

/-! ### Addresses -/

theorem read_of_network {text letters rest : List Char} {first : Char}
    (htext : cleaned text = first :: letters ++ ':' :: rest)
    (hletters : ∀ c ∈ first :: letters, isSchemeChar c = true)
    (hfirst : isAsciiLetter first = true)
    (hscheme : String.ofList ((first :: letters).map Char.toLower) = scheme)
    (hkind : schemeKind scheme = .network) :
    Url.read text = readAuthority scheme .network (rest.dropWhile (isSlash .network)) := by
  have hspan : (first :: letters ++ ':' :: rest).span isSchemeChar =
      (first :: letters, ':' :: rest) := by
    refine span_append hletters ?_
    rintro _ ⟨⟩
    decide
  rw [Url.read, htext, hspan]
  simp only [hfirst, if_true, hscheme, hkind]

/-- How the addresses are read that begin with a text: up to the authority and the start of the path
all of them say the same. -/
structure Continued (front : List Char) (scheme : String) (authority path : List Char) : Prop where
  isAuthority : IsAuthority authority
  isBehind : IsBehind path
  read : ∀ {text more : List Char}, cleaned text = front ++ more →
    Url.read text = readAuthority scheme .network (authority ++ path ++ more)

/-- The part of an address behind its scheme and the slashes in front of its authority. -/
theorem exists_body {text : List Char} {url : Url} (hread : Url.read text = .ok url)
    (hkind : schemeKind url.scheme = .network) : ∃ head c body,
      cleaned text = head ++ c :: body ∧ isSlash .network c = false ∧
        ∀ {text' body'}, cleaned text' = head ++ c :: body' →
          Url.read text' = readAuthority url.scheme .network (c :: body') := by
  rw [Url.read] at hread
  split at hread
  · rename_i first letters rest hspan
    rw [List.span_eq_takeWhile_dropWhile] at hspan
    obtain ⟨htake, hdrop⟩ := Prod.mk.inj hspan
    have htext : cleaned text = first :: letters ++ ':' :: rest := by
      rw [← htake, ← hdrop, List.takeWhile_append_dropWhile]
    have hletters : ∀ c ∈ first :: letters, isSchemeChar c = true :=
      fun c hc => List.mem_takeWhile_imp (htake ▸ hc)
    split at hread
    · rename_i hfirst
      dsimp only at hread
      split at hread
      · rename_i hnetwork
        have hscheme := scheme_readAuthority hread
        rw [← hscheme] at hread
        -- The slashes before the authority are passed over, whatever follows it.
        obtain ⟨slashes, body, rfl, hslashes, hbody⟩ := exists_span (isSlash .network) rest
        have hdropped : ∀ {back : List Char}, (∀ c ∈ back.head?, isSlash .network c = false) →
            (slashes ++ back).dropWhile (isSlash .network) = back := by
          intro back hback
          have hsplit := span_append hslashes hback
          rw [List.span_eq_takeWhile_dropWhile] at hsplit
          exact (Prod.mk.inj hsplit).2
        rw [hdropped hbody] at hread
        cases body with
        | nil => cases hread
        | cons c body =>
          refine ⟨first :: letters ++ ':' :: slashes, c, body, by simp [htext], hbody c rfl, ?_⟩
          intro text' body' htext'
          have hcleaned : cleaned text' = first :: letters ++ ':' :: (slashes ++ c :: body') := by
            simp [htext']
          rw [read_of_network hcleaned hletters hfirst hscheme.symm hkind,
            hdropped fun d hd => by obtain rfl := Option.some.inj hd; exact hbody c rfl]
      · rw [scheme_readFile hread] at hkind
        cases hkind
      · rename_i hother
        rw [scheme_readOther hread, hother] at hkind
        cases hkind
    · cases hread
  · cases hread

/-- **Addresses that go on.** The text of the address of a server goes on where the slashes at its
end begin. -/
theorem exists_continued {text front : List Char} {count : Nat} {url : Url}
    (hread : Url.read text = .ok url) (hkind : schemeKind url.scheme = .network)
    (htext : cleaned text = front ++ List.replicate count '/') :
    ∃ authority path, Continued front url.scheme authority path := by
  obtain ⟨head, c, body, hsplit, hc, hall⟩ := exists_body hread hkind
  -- The slashes at the end do not reach the authority, which begins with another character.
  obtain ⟨body', rfl⟩ : ∃ body', front = head ++ c :: body' := by
    have hnotMem : c ∉ List.replicate count '/' := by
      rintro hmem
      obtain rfl := (List.mem_replicate.1 hmem).2
      exact absurd hc (by decide)
    rcases List.append_eq_append_iff.1 (htext.symm.trans hsplit) with
      ⟨early, -, hslashes⟩ | ⟨late, rfl, hbody⟩
    · exact absurd (by simp [hslashes]) hnotMem
    · cases late with
      | nil => exact absurd (by rw [List.nil_append] at hbody; simp [← hbody]) hnotMem
      | cons d late =>
        obtain ⟨rfl, -⟩ := List.cons.inj hbody
        exact ⟨late, rfl⟩
  obtain ⟨authority, path, hbody, hauthority, hpath⟩ :=
    exists_span (fun c => !endsAuthority .network c) (c :: body')
  refine ⟨authority, path, fun d hd => by simpa using hauthority d hd,
    fun d hd => by simpa using hpath d hd, fun {text' more} htext' => ?_⟩
  have hcleaned : cleaned text' = head ++ c :: (body' ++ more) := by simpa using htext'
  rw [hall hcleaned, ← hbody]
  rfl

end Net.Url

end FieldAccess
