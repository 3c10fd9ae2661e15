import Launcher.Proofs.Settings.Validity
import Launcher.Proofs.Text.Occurrences
import Launcher.Proofs.Text.Percent

namespace Launcher.Settings

/-!
# Web searches of valid settings

A query is put into an address: into a template with placeholders, or behind the site of a provider.
This file says when that works, for every query.

* `placeholder_infix_iff` — the rule for templates, which looks at the text as it was entered, and
  the address, which is made of the trimmed one, find the same placeholders.
* `searchTerm` — how a query is written in an address; `decoded_searchTerm` reads it back.
* `exists_pieces`, `exists_site` — what stands around the search term in the address of a query.
* `webSearchUrl?_eq_iff` — different queries have different addresses.
* `webSearch_works` — with valid settings every query has an address, from which it can be read
  back.

The placeholder begins and ends with a brace, so trimming the template cuts none off. What is put in
its place is encoded, but that does not matter for the pieces of the template: they are the same for
every query, as the template is cut before anything is put in. So two addresses can only agree if
the terms do, since there is a piece before and one behind the first term, and a term gives its
query back.
-/

variable {s : Settings}

/-- What stands for the query in a template. -/
def queryPlaceholder : String :=
  "\x7bquery\x7d"

theorem queryPlaceholder_ne_nil : queryPlaceholder.toList ≠ [] := by
  decide

theorem trim_queryPlaceholder : Text.trim queryPlaceholder.toList = queryPlaceholder.toList := by
  decide

/-- A template as it was entered has a placeholder if the trimmed one has. -/
theorem placeholder_infix_iff (template : String) :
    queryPlaceholder.toList <:+: (Text.trimmed template).toList ↔
      queryPlaceholder.toList <:+: template.toList := by
  rw [Text.toList_trimmed]
  exact Text.infix_trim_iff queryPlaceholder_ne_nil trim_queryPlaceholder

/-- The rule asks for a placeholder in the template of a custom provider. -/
theorem checkWebSearch_eq_ok_iff {provider : WebSearch} {template : String} :
    checkWebSearch provider template = .ok () ↔
      (provider = .custom → queryPlaceholder.toList <:+: template.toList) := by
  unfold checkWebSearch
  rw [← Text.isInfix_iff, queryPlaceholder]
  split
  next h => simpa using h
  next h => simpa using h

/-- So a valid template has one. -/
theorem placeholder_infix_of_check (h : check s = .ok ()) (hcustom : s.webSearch = .custom) :
    queryPlaceholder.toList <:+: s.webSearchTemplate.toList := by
  obtain ⟨-, -, -, -, hweb, -⟩ := (check_eq_ok_iff s).mp h
  exact checkWebSearch_eq_ok_iff.mp hweb hcustom

/-! ### Search terms -/

/-- How a query is written in an address: trimmed, and percent-encoded with `+` for each space. -/
def searchTerm (query : String) : String :=
  Text.Percent.encoded true (Text.trimmed query)

/-- A search term is read back once each `+` is the escape of a space. -/
theorem decoded_searchTerm (query : String) :
    Text.Percent.decoded (Text.replaceAllIn "+" "%20" (searchTerm query)) = Text.trimmed query := by
  have hspaces : Text.replaceAllIn "+" "%20" (searchTerm query) =
      Text.Percent.encoded false (Text.trimmed query) := by
    rw [Text.replaceAllIn, searchTerm, Text.Percent.toList_encoded]
    exact congrArg String.ofList (Text.Percent.replaceAll_plus _)
  rw [hspaces, Text.Percent.decoded_encoded]

/-! ### Addresses -/

/-- The address of a query is the trimmed template with the search term for each placeholder. -/
theorem webSearchUrl?_of_template (hcustom : s.webSearch = .custom)
    (hplaceholder : queryPlaceholder.toList <:+: s.webSearchTemplate.toList) (query : String) :
    s.webSearchUrl? query = some (Text.replaceAllIn queryPlaceholder (searchTerm query)
      (Text.trimmed s.webSearchTemplate)) := by
  rw [← placeholder_infix_iff, ← Text.isInfix_iff, queryPlaceholder] at hplaceholder
  rw [webSearchUrl?, hcustom]
  exact if_pos hplaceholder

/-- The pieces of a template with a placeholder: there are two or more of them, and they do not
depend on the query. -/
theorem exists_pieces (hcustom : s.webSearch = .custom)
    (hplaceholder : queryPlaceholder.toList <:+: s.webSearchTemplate.toList) :
    ∃ first second rest,
      Text.IsCut queryPlaceholder.toList (Text.trimmed s.webSearchTemplate).toList
        (first :: second :: rest) ∧
      ∀ query, s.webSearchUrl? query = some (String.ofList
        (Text.joinWith (searchTerm query).toList (first :: second :: rest))) := by
  have htrimmed := (placeholder_infix_iff s.webSearchTemplate).mpr hplaceholder
  obtain ⟨first, second, rest, hpieces⟩ :=
    Text.exists_splitOn_of_isInfix queryPlaceholder_ne_nil (Text.isInfix_iff.mpr htrimmed)
  refine ⟨first, second, rest, (Text.isCut_iff queryPlaceholder_ne_nil).mpr hpieces.symm, ?_⟩
  intro query
  rw [webSearchUrl?_of_template hcustom hplaceholder query, ← hpieces]
  rfl

/-- The address of a query is the site of the provider with the search term behind it. -/
theorem exists_site (hsite : s.webSearch ≠ .custom) :
    ∃ site, ∀ query, s.webSearchUrl? query = some (site ++ searchTerm query) := by
  unfold webSearchUrl? searchTerm
  cases hprovider : s.webSearch with
  | custom => exact absurd hprovider hsite
  | _ => exact ⟨_, fun query => rfl⟩

/-- **Addresses keep queries apart.** With valid settings two queries have the same address exactly
if they are the same once trimmed. -/
theorem webSearchUrl?_eq_iff (h : check s = .ok ()) (query query' : String) :
    s.webSearchUrl? query = s.webSearchUrl? query' ↔ Text.trimmed query = Text.trimmed query' := by
  constructor
  · intro heq
    have hterm : searchTerm query = searchTerm query' := by
      -- A template can only tell queries apart if it has a placeholder, which the rule asks for.
      by_cases hcustom : s.webSearch = .custom
      · obtain ⟨first, second, rest, -, hurl⟩ :=
          exists_pieces hcustom (placeholder_infix_of_check h hcustom)
        rw [hurl, hurl, Option.some_inj, String.ofList_inj] at heq
        exact String.toList_injective (Text.eq_of_joinWith_eq heq)
      · obtain ⟨site, hurl⟩ := exists_site hcustom
        rw [hurl, hurl, Option.some_inj] at heq
        simpa using heq
    rw [← decoded_searchTerm query, hterm, decoded_searchTerm]
  · intro heq
    unfold webSearchUrl?
    rw [heq]

/-- **The web search of valid settings works.** The template of a custom provider has a placeholder,
blanks around the template aside, and every query is put between its pieces, which do not depend on
the query; the address of every other provider ends with the query. In both cases what is written
there is read back as the trimmed query. -/
theorem webSearch_works (h : check s = .ok ()) :
    (s.webSearch = .custom →
      ∃ pieces, 1 < pieces.length ∧
        Text.IsCut queryPlaceholder.toList (Text.trimmed s.webSearchTemplate).toList pieces ∧
        ∀ query, s.webSearchUrl? query =
          some (String.ofList (Text.joinWith (searchTerm query).toList pieces))) ∧
    (s.webSearch ≠ .custom →
      ∃ site, ∀ query, s.webSearchUrl? query = some (site ++ searchTerm query)) ∧
    ∀ query, Text.Percent.decoded (Text.replaceAllIn "+" "%20" (searchTerm query)) =
      Text.trimmed query := by
  refine ⟨fun hcustom => ?_, exists_site, decoded_searchTerm⟩
  obtain ⟨first, second, rest, hcut, hurl⟩ :=
    exists_pieces hcustom (placeholder_infix_of_check h hcustom)
  refine ⟨first :: second :: rest, ?_, hcut, hurl⟩
  rw [List.length_cons, List.length_cons]
  omega

/-- Settings with a template that has blanks around it, and two placeholders in it. -/
def findTwice : Settings :=
  { defaults {} with
    webSearch := .custom
    webSearchTemplate := " https://find.test/\x7bquery\x7d?also=\x7bquery\x7d " }

/-- A query with a sign and blanks in it, put into a template at two places. -/
theorem webSearch_works_findTwice :
    check findTwice = .ok () ∧
      findTwice.webSearchUrl? " a+b c " = some "https://find.test/a%2Bb+c?also=a%2Bb+c" ∧
      ∃ pieces, 1 < pieces.length ∧ ∀ query, findTwice.webSearchUrl? query =
        some (String.ofList (Text.joinWith (searchTerm query).toList pieces)) := by
  have hcheck : check findTwice = .ok () := by decide +kernel
  have hurl : findTwice.webSearchUrl? " a+b c " =
      some "https://find.test/a%2Bb+c?also=a%2Bb+c" := by
    decide +kernel
  obtain ⟨htemplate, -, -⟩ := webSearch_works hcheck
  obtain ⟨pieces, hlength, -, hpieces⟩ := htemplate rfl
  exact ⟨hcheck, hurl, pieces, hlength, hpieces⟩

end Launcher.Settings
