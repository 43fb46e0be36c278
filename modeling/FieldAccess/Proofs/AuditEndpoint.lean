import FieldAccess.Proofs.ManifestChecks
import FieldAccess.Proofs.RefusedHosts

/-!
# Endpoints of audit services

Where the entries go if a manifest passes its check. The check reads the endpoint as an address; the
address that entries are sent to is put together from its text. The two agree on the scheme, the
user, the host and the port wherever both can be read, but the path of entries may end up in the
query or the fragment of the endpoint, and blanks at the end of the endpoint, which the check passes
over, come to stand in front of the path.

## Main definitions

* `Audit.LeadsToEntries` – whether an address is that of the entries behind an endpoint.
* `Audit.Reaches` – whether entries are sent to such an address.

## Main statements

* `Manifest.audit_address_of_check` – the addresses that entries are sent to.
-/

namespace FieldAccess

open Net

namespace Audit

/-- An address is that of the entries behind an endpoint: on the same server, with the path of the
endpoint, without the slashes at its end, and the path of entries behind it. -/
structure LeadsToEntries (posted endpoint : Url) : Prop where
  scheme : posted.scheme = endpoint.scheme
  host : posted.host = endpoint.host
  port : posted.port = endpoint.port
  path : Url.pathText posted.path =
    (Url.pathText endpoint.path).rdropWhile (· == '/') ++ entryPath.toList

/-- Whether the entries for an endpoint, which is read as `url`, are sent behind it. -/
def Reaches (endpoint : String) (url : Url) : Prop :=
  ∃ posted, Url.read (entryUrl endpoint).toList = .ok posted ∧ LeadsToEntries posted url

/-- The segments of the path of entries. -/
def entrySegments : List (List Char) := ["api".toList, "audit-logs".toList]

theorem entryPath_eq : entryPath.toList = '/' :: "api/audit-logs".toList := by decide

/-- The path of entries holds no blanks, no query and no fragment. -/
theorem entryPath_characters :
    ∀ c ∈ entryPath.toList, 0x20 < c.toNat ∧ Url.endsPath c = false := by
  have hall : entryPath.toList.all (fun c => decide (0x20 < c.toNat) && !Url.endsPath c) = true :=
    by decide +kernel
  intro c hc
  simpa using List.all_eq_true.1 hall c hc

theorem writtenSegments_entryPath :
    Url.writtenSegments "api/audit-logs".toList = entrySegments := by decide +kernel

theorem isName_of_mem_entrySegments :
    ∀ segment ∈ Url.writtenSegments "api/audit-logs".toList, Url.IsName segment := by
  rw [writtenSegments_entryPath]
  intro segment hsegment
  simp only [entrySegments, List.mem_cons, List.not_mem_nil, or_false] at hsegment
  rcases hsegment with rfl | rfl <;> constructor <;> decide

theorem pathText_append_entrySegments (segments : List (List Char)) :
    Url.pathText (.hierarchical (segments ++ entrySegments)) =
      Url.pathText (.hierarchical segments) ++ entryPath.toList := by
  rw [Url.pathText_append, entryPath_eq]
  rfl

/-- The path of entries is more than slashes at the end of a path. -/
theorem ne_rdropWhile_append_entryPath (text : List Char) :
    text ≠ text.rdropWhile (· == '/') ++ entryPath.toList := by
  intro h
  have hsplit := List.rdropWhile_append_rtakeWhile (p := (· == '/')) (l := text)
  have hslashes := List.append_cancel_left (hsplit.trans h)
  have hslash := List.mem_rtakeWhile_imp (p := (· == '/')) (l := text) (x := 'a')
    (by rw [hslashes]; decide)
  cases hslash

theorem toList_entryUrl (endpoint : String) :
    (entryUrl endpoint).toList =
      endpoint.toList.rdropWhile (· == '/') ++ entryPath.toList := by
  rw [entryUrl, String.toList_append, Text.withoutTrailing, String.toList_ofList]
  rfl

/-- The endpoint and the address of entries have a common start, on which slashes follow in the one,
and the path of entries in the other. Blanks at the end of the endpoint come to stand before this
path. -/
theorem exists_common_start (endpoint : String) : ∃ front count,
    Url.cleaned endpoint.toList = front ++ List.replicate count '/' ∧
      Url.cleaned (entryUrl endpoint).toList =
        front ++ (Url.trailing endpoint.toList ++ entryPath.toList) ∧
      (Url.trailing endpoint.toList ≠ [] → count = 0) := by
  have hentry : ∀ c ∈ entryPath.toList, 0x20 < c.toNat := fun c hc => (entryPath_characters c hc).1
  have hne : entryPath.toList ≠ [] := by decide
  have hslash : ∀ c ∈ endpoint.toList.rtakeWhile (· == '/'), c = '/' :=
    fun c hc => eq_of_beq (List.mem_rtakeWhile_imp (p := (· == '/')) hc)
  have htext := List.rdropWhile_append_rtakeWhile (p := (· == '/')) (l := endpoint.toList)
  have hposted := (Url.cleaned_append hentry hne (endpoint.toList.rdropWhile (· == '/'))).1
  rw [← toList_entryUrl] at hposted
  by_cases hnone : endpoint.toList.rtakeWhile (· == '/') = []
  · rw [hnone, List.append_nil] at htext
    rw [htext, ← Url.cleaned_append_trailing, List.append_assoc] at hposted
    exact ⟨Url.cleaned endpoint.toList, 0, by simp, hposted, fun _ => rfl⟩
  · have hsolid : ∀ c ∈ endpoint.toList.rtakeWhile (· == '/'), 0x20 < c.toNat := by
      intro c hc
      rw [hslash c hc]
      decide
    obtain ⟨hcleaned, htrailing⟩ :=
      Url.cleaned_append hsolid hnone (endpoint.toList.rdropWhile (· == '/'))
    rw [htext] at hcleaned htrailing
    rw [List.eq_replicate_iff.2 ⟨rfl, hslash⟩] at hcleaned
    rw [htrailing]
    exact ⟨_, _, hcleaned, hposted, fun h => absurd rfl h⟩

variable {endpoint : String} {url : Url}

/-- The parts in which an endpoint and the address of its entries are read. -/
structure EndpointParts (endpoint : String) (url : Url) (authority path : List Char) (count : Nat)
    (base : Url) : Prop where
  isAuthority : Url.IsAuthority authority
  isBehind : Url.IsBehind path
  readBare : Url.readBare url.scheme authority = .ok base
  url_eq : url = Url.withPath base .network (path ++ List.replicate count '/')
  posted_eq : Url.read (entryUrl endpoint).toList = Url.readAuthority url.scheme .network
    (authority ++ path ++ (Url.trailing endpoint.toList ++ entryPath.toList))
  count_eq_zero : Url.trailing endpoint.toList ≠ [] → count = 0

theorem exists_endpointParts (hread : Url.read endpoint.toList = .ok url)
    (hkind : schemeKind url.scheme = .network) :
    ∃ authority path count base, EndpointParts endpoint url authority path count base := by
  obtain ⟨front, count, hendpoint, hposted, hcount⟩ := exists_common_start endpoint
  obtain ⟨authority, path, hcontinued⟩ := Url.exists_continued hread hkind hendpoint
  have hslashes : Url.IsBehind (List.replicate count '/') := by
    cases count with
    | zero => exact fun _ h => by cases h
    | succ count =>
      rintro _ ⟨⟩
      decide
  have hparts := hcontinued.read hendpoint
  rw [List.append_assoc, Url.readAuthority_append hcontinued.isAuthority
    (hcontinued.isBehind.append hslashes), hread] at hparts
  obtain ⟨base, hbase, hurl⟩ := Url.exists_of_map_eq_ok hparts.symm
  exact ⟨authority, path, count, base, hcontinued.isAuthority, hcontinued.isBehind, hbase,
    hurl.symm, hcontinued.read hposted, hcount⟩

theorem isBehind_entryPath : Url.IsBehind entryPath.toList := by
  rw [entryPath_eq]
  rintro _ ⟨⟩
  decide

theorem endsPath_entryPath : ∀ c ∈ entryPath.toList, Url.endsPath c = false :=
  fun c hc => (entryPath_characters c hc).2

theorem ends_of_blank {blank : Char} (h : blank.toNat ≤ 0x20) :
    Url.endsAuthority .network blank = false ∧ Url.endsPath blank = false :=
  Text.forall_le_space (P := fun c => Url.endsAuthority .network c = false ∧
    Url.endsPath c = false) (by decide +kernel) h

namespace EndpointParts

variable {authority path : List Char} {count : Nat} {base : Url}

/-- The path of entries is read behind the authority if there is a path in between. -/
theorem posted_of_isBehind (parts : EndpointParts endpoint url authority path count base)
    (hbehind : Url.IsBehind (path ++ (Url.trailing endpoint.toList ++ entryPath.toList))) :
    Url.read (entryUrl endpoint).toList = .ok (Url.withPath base .network
      (path ++ (Url.trailing endpoint.toList ++ entryPath.toList))) := by
  rw [parts.posted_eq, List.append_assoc, Url.readAuthority_append parts.isAuthority hbehind,
    parts.readBare]
  rfl

/-- With a query or a fragment, the path of entries is a part of these. -/
theorem posted_of_mark (parts : EndpointParts endpoint url authority path count base)
    (hmark : ∃ c ∈ path, Url.endsPath c = true) :
    (url.query.isSome = true ∨ url.fragment.isSome = true) ∧ ∃ query fragment,
      Url.read (entryUrl endpoint).toList = .ok { url with query, fragment } := by
  obtain ⟨before, behind, rfl, hbefore, hbehind⟩ := Text.exists_span (fun c => !Url.endsPath c) path
  have hnone : ∀ c ∈ before, Url.endsPath c = false := fun c hc => by simpa using hbefore c hc
  cases behind with
  | nil =>
    obtain ⟨c, hc, hends⟩ := hmark
    rw [hnone c (by simpa using hc)] at hends
    cases hends
  | cons mark behind =>
    have hends : Url.endsPath mark = true := by simpa using hbehind mark rfl
    have hposted := parts.posted_of_isBehind (by
      cases before with
      | nil => exact parts.isBehind
      | cons c before => exact parts.isBehind)
    have hurl := parts.url_eq
    rw [List.append_assoc, List.cons_append] at hposted hurl
    obtain ⟨query, fragment, hread, hsome⟩ := Url.exists_withPath_of_mark hnone hends base .network
      (behind ++ List.replicate count '/')
    obtain ⟨query', fragment', hread', -⟩ := Url.exists_withPath_of_mark hnone hends base .network
      (behind ++ (Url.trailing endpoint.toList ++ entryPath.toList))
    rw [hread] at hurl
    rw [hread'] at hposted
    subst hurl
    exact ⟨hsome, query', fragment', hposted⟩

variable (hpath : ∀ c ∈ path, Url.endsPath c = false)
include hpath

theorem head_path (parts : EndpointParts endpoint url authority path count base) :
    ∀ c ∈ path.head?, Url.isSlash .network c = true := by
  intro c hc
  have hends := parts.isBehind c hc
  rw [Url.endsAuthority, hpath c (List.mem_of_mem_head? hc), Bool.or_false] at hends
  exact hends

theorem url_of_path (parts : EndpointParts endpoint url authority path count base) :
    url = { base with path := Url.readPath .network (path ++ List.replicate count '/') } := by
  have hslashes : ∀ c ∈ List.replicate count '/', Url.endsPath c = false := by
    intro c hc
    rw [(List.mem_replicate.1 hc).2]
    decide
  rw [← Url.withPath_of_path (List.forall_mem_append.2 ⟨hpath, hslashes⟩)]
  exact parts.url_eq

/-- Without blanks at the end of the endpoint, the entries are sent behind what is kept of its path,
up to some of the slashes at its end. -/
theorem posted_of_path (parts : EndpointParts endpoint url authority path count base)
    (hnone : Url.trailing endpoint.toList = []) :
    ∃ slashes, url.path = .hierarchical (Url.kept path ++ List.replicate slashes []) ∧
      Url.read (entryUrl endpoint).toList =
        .ok { url with path := .hierarchical (Url.kept path ++ entrySegments) } := by
  have hhead := parts.head_path hpath
  obtain ⟨slashes, hslashes⟩ := Url.exists_readPath_slashes hhead count
  have hurl := parts.url_of_path hpath
  have hposted := parts.posted_of_isBehind
    (parts.isBehind.append (by rw [hnone]; exact isBehind_entryPath))
  rw [hslashes] at hurl
  rw [hnone, List.nil_append,
    Url.withPath_of_path (List.forall_mem_append.2 ⟨hpath, endsPath_entryPath⟩), entryPath_eq,
    Url.readPath_append_names hhead isName_of_mem_entrySegments, writtenSegments_entryPath]
    at hposted
  subst hurl
  exact ⟨slashes, rfl, hposted⟩

omit hpath in
/-- Blanks behind a host come to stand at its end, and no host ends in them. -/
theorem not_posted_of_host (parts : EndpointParts endpoint url authority [] count base)
    (hsome : Url.trailing endpoint.toList ≠ []) (posted : Url) :
    Url.read (entryUrl endpoint).toList ≠ .ok posted := by
  intro hread
  have hauthority : Url.IsAuthority (authority ++ Url.trailing endpoint.toList) :=
    List.forall_mem_append.2 ⟨parts.isAuthority,
      fun c hc => (ends_of_blank (Url.toNat_le_of_mem_trailing hc)).1⟩
  have hposted := parts.posted_eq
  rw [List.append_nil, ← List.append_assoc,
    Url.readAuthority_append hauthority isBehind_entryPath] at hposted
  obtain ⟨before, blank, hblanks⟩ := (List.eq_nil_or_concat' _).resolve_left hsome
  have hblank : blank.toNat ≤ 0x20 := Url.toNat_le_of_mem_trailing (by rw [hblanks]; simp)
  rw [hblanks, ← List.append_assoc] at hauthority hposted
  have hnone : '\\' ∉ authority ++ before := fun hmem =>
    absurd (hauthority '\\' (List.mem_append_left _ hmem)) (by decide)
  obtain ⟨fault, hfault⟩ := Url.readBare_append_blank hblank url.scheme hnone
  rw [hread, hfault] at hposted
  cases hposted

/-- Blanks behind a path make it longer. -/
theorem not_leadsToEntries_of_path (parts : EndpointParts endpoint url authority path count base)
    (hnonempty : path ≠ []) (hsome : Url.trailing endpoint.toList ≠ []) {posted : Url}
    (hread : Url.read (entryUrl endpoint).toList = .ok posted) : ¬ LeadsToEntries posted url := by
  intro hleads
  have hblanks : ∀ c ∈ Url.trailing endpoint.toList, c.toNat ≤ 0x20 :=
    fun c hc => Url.toNat_le_of_mem_trailing hc
  have hposted := parts.posted_of_isBehind (by
    obtain ⟨c, path, rfl⟩ := List.exists_cons_of_ne_nil hnonempty
    exact parts.isBehind)
  obtain ⟨longer, hlonger, hlength⟩ := Url.readPath_append_blanks (parts.head_path hpath)
    hnonempty hblanks hsome isName_of_mem_entrySegments
  have hmore : ∀ c ∈ Url.trailing endpoint.toList ++ entryPath.toList, Url.endsPath c = false :=
    List.forall_mem_append.2 ⟨fun c hc => (ends_of_blank (hblanks c hc)).2, endsPath_entryPath⟩
  rw [Url.withPath_of_path (List.forall_mem_append.2 ⟨hpath, hmore⟩), entryPath_eq,
    ← List.append_assoc, hlonger, writtenSegments_entryPath, hread] at hposted
  have hurl := parts.url_of_path hpath
  rw [parts.count_eq_zero hsome, List.replicate_zero, List.append_nil] at hurl
  have htext := hleads.path
  rw [Except.ok.inj hposted, hurl, pathText_append_entrySegments] at htext
  have hshort := (List.rdropWhile_prefix (· == '/')
    (l := Url.pathText (Url.readPath .network path))).length_le
  rw [← List.append_cancel_right htext] at hshort
  exact absurd hlength (Nat.not_lt.2 hshort)

/-- No entry reaches its path if the endpoint ends in blanks that count. -/
theorem not_reaches_of_trailing (parts : EndpointParts endpoint url authority path count base)
    (hsome : Url.trailing endpoint.toList ≠ []) : ¬ Reaches endpoint url := by
  rintro ⟨posted, hread, hleads⟩
  by_cases hnil : path = []
  · subst hnil
    exact parts.not_posted_of_host hsome posted hread
  · exact parts.not_leadsToEntries_of_path hpath hnil hsome hread hleads

end EndpointParts

end Audit

namespace Manifest

variable {manifest : Manifest}

/-- **Addresses of entries.** A manifest that passes its check names an endpoint that is an address.
If it has a query or a fragment, then the entries are sent to the address of the endpoint itself,
with the path of entries in its query or fragment. Otherwise they are sent behind what is kept of
the path of the endpoint, without all or some of the slashes at its end, unless the endpoint ends in
a blank that counts if something follows. So they reach their path except in these cases, and if
what is kept ends in a slash itself. -/
theorem audit_address_of_check (hcheck : manifest.check = .ok ()) {settings : AuditSettings}
    (hsettings : manifest.spec.audit = some settings) {endpoint : String}
    (hendpoint : settings.endpoint = some endpoint) :
    ∃ url, Url.read endpoint.toList = .ok url ∧ (url.scheme = "http" ∨ url.scheme = "https") ∧
      (url.query.isSome = true ∨ url.fragment.isSome = true →
        (∃ query fragment, Url.read (Audit.entryUrl endpoint).toList =
          .ok { url with query, fragment }) ∧ ¬ Audit.Reaches endpoint url) ∧
      (url.query = none → url.fragment = none → Url.trailing endpoint.toList = [] →
        ∃ kept slashes, url.path = .hierarchical (kept ++ List.replicate slashes []) ∧
          Url.read (Audit.entryUrl endpoint).toList =
            .ok { url with path := .hierarchical (kept ++ Audit.entrySegments) } ∧
          (Audit.Reaches endpoint url ↔ kept.getLast? ≠ some [])) ∧
      (Url.trailing endpoint.toList ≠ [] → ¬ Audit.Reaches endpoint url) := by
  obtain ⟨-, -, -, -, haudit, -⟩ := check_eq_ok_iff.1 hcheck
  obtain ⟨-, -, hread⟩ := AuditSettings.check_eq_ok_iff.1 (haudit settings hsettings)
  have hchecked := hread endpoint hendpoint
  obtain ⟨url, hurl, hscheme⟩ : ∃ url, Url.read endpoint.toList = .ok url ∧
      (url.scheme = "http" ∨ url.scheme = "https") := by
    rw [checkEndpoint] at hchecked
    split at hchecked
    · cases hchecked
    · split at hchecked
      · exact ⟨_, ‹_›, ‹_›⟩
      · cases hchecked
  have hkind : schemeKind url.scheme = .network := by
    rcases hscheme with hscheme | hscheme <;> rw [hscheme] <;> decide
  obtain ⟨authority, path, count, base, parts⟩ := Audit.exists_endpointParts hurl hkind
  refine ⟨url, hurl, hscheme, ?_⟩
  by_cases hmark : ∃ c ∈ path, Url.endsPath c = true
  · obtain ⟨hsome, query, fragment, hposted⟩ := parts.posted_of_mark hmark
    have hnot : ¬ Audit.Reaches endpoint url := by
      rintro ⟨posted, hread, hleads⟩
      obtain rfl := Except.ok.inj (hposted.symm.trans hread)
      exact Audit.ne_rdropWhile_append_entryPath _ hleads.path
    refine ⟨fun _ => ⟨⟨query, fragment, hposted⟩, hnot⟩, fun hquery hfragment => ?_, fun _ => hnot⟩
    rw [hquery, hfragment] at hsome
    simp at hsome
  · have hpath : ∀ c ∈ path, Url.endsPath c = false := by simpa using hmark
    have hbase := (Url.readBare_fields parts.readBare).2
    have hfields : url.query = none ∧ url.fragment = none := by
      rw [parts.url_of_path hpath]
      exact hbase
    refine ⟨fun hsome => ?_, fun _ _ hnone => ?_, parts.not_reaches_of_trailing hpath⟩
    · rw [hfields.1, hfields.2] at hsome
      simp at hsome
    · obtain ⟨slashes, hslashes, hposted⟩ := parts.posted_of_path hpath hnone
      refine ⟨Url.kept path, slashes, hslashes, hposted, ?_⟩
      rw [← Url.rdropWhile_pathText_iff path slashes, ← hslashes]
      constructor
      · rintro ⟨posted, hread, hleads⟩
        obtain rfl := Except.ok.inj (hposted.symm.trans hread)
        have htext := hleads.path
        rw [Audit.pathText_append_entrySegments] at htext
        exact (List.append_cancel_right htext).symm
      · intro htext
        refine ⟨_, hposted, rfl, rfl, rfl, ?_⟩
        rw [Audit.pathText_append_entrySegments, htext]

/-- An instance that reports to an audit service at an endpoint. -/
def reportingTo (endpoint : String) : Manifest :=
  { reporting 1 with spec.audit := some { endpoint := some endpoint } }

/-- Slashes at the end of an endpoint do not keep the entries from their path. -/
theorem audit_address_of_check_slashes :
    (reportingTo "http://audit/base//").check = .ok () ∧
      ∃ url, Url.read "http://audit/base//".toList = .ok url ∧
        Audit.Reaches "http://audit/base//" url := by
  have hcheck : (reportingTo "http://audit/base//").check = .ok () := by decide +kernel
  obtain ⟨url, hread, -, -, hpath, -⟩ := audit_address_of_check hcheck rfl rfl
  have hfields : (Url.read "http://audit/base//".toList).map
      (fun url => (url.query, url.fragment)) = .ok (none, none) := by decide +kernel
  have hposted : (Url.read (Audit.entryUrl "http://audit/base//").toList).map (·.path) =
      .ok (.hierarchical ["base".toList, "api".toList, "audit-logs".toList]) := by decide +kernel
  rw [hread] at hfields
  obtain ⟨hquery, hfragment⟩ := Prod.mk.inj (Except.ok.inj hfields)
  obtain ⟨kept, _, -, hentries, hreaches⟩ := hpath hquery hfragment (by decide)
  rw [hentries] at hposted
  have hkept : kept = ["base".toList] := List.append_cancel_right
    (UrlPath.hierarchical.inj (Except.ok.inj hposted))
  exact ⟨hcheck, url, hread, hreaches.2 (by rw [hkept]; decide)⟩

/-- An endpoint that ends in a blank passes the check, but its entries have no address. -/
theorem not_audit_address_of_check :
    ¬ ∀ (manifest : Manifest) (settings : AuditSettings) (endpoint : String),
      manifest.check = .ok () → manifest.spec.audit = some settings →
        settings.endpoint = some endpoint →
          ∃ url, Url.read endpoint.toList = .ok url ∧ Audit.Reaches endpoint url := by
  intro h
  obtain ⟨url, -, posted, hposted, -⟩ :=
    h (reportingTo "http://audit ") _ "http://audit " (by decide +kernel) rfl rfl
  have hfault : Url.read (Audit.entryUrl "http://audit ").toList = .error .invalidDomain := by
    decide +kernel
  rw [hfault] at hposted
  cases hposted

end Manifest

end FieldAccess
