import Launcher.Proofs.Json.Documents
import Launcher.Wire.Decode

namespace Launcher

/-!
# Messages read back

* `Value.swapped` — an object with its members the other way round.
* `Request.parse?_text`, `Request.parse?_swapped` — a request is read back, in either order of its
  kind and its content.
* `HitView.ofDocument?_toJson`, `ResultsView.ofDocument?_toJson`, `View.ofDocument?_toJson` — the
  parts of a response are read back.
* `Response.parse?_text` — a response is read back.

A message is written as a value, whose text is read as the document of that value
(`Json.document?_chars`). So for each part of a message there are three small facts: its value is
readable, its document is read as the part itself, and the document is not nested more deeply than
the reader allows. The parts are treated from the inside to the outside, each by the facts about
what it holds; a list is read back if its items are.

A number has to fit the sixty-four bits that it has on the wire, and a score to be read back from
its own text. Both are said of the message itself, by `Request.Fits`, `Response.Fits` and
`Response.scores`. The depth needs no assumption: a response is at most eight levels deep, whatever
it holds.
-/

open Json

/-! ### What the wire can carry -/

/-- An object with its members the other way round. -/
def Json.Value.swapped : Value → Value
  | .object members => .object members.reverse
  | v => v

/-- The position that a request chooses. -/
def Request.index? : Request → Option Nat
  | .tab index | .execute index => index
  | _ => none

/-- The position in the request fits sixty-four bits. -/
def Request.Fits (r : Request) : Prop :=
  ∀ i ∈ r.index?, i < UInt64.size

/-- The results in a view. -/
def View.hits : View → List HitView
  | .results r => r.groups.flatMap (·.hits)
  | .command hit => [hit]
  | _ => []

/-- The ticket in a view. -/
def View.ticket? : View → Option Nat
  | .results r => some r.ticket
  | .submitted ticket => some ticket
  | _ => none

/-- The positions in a result fit sixty-four bits. -/
def HitView.Fits (h : HitView) : Prop :=
  ∀ n ∈ h.highlights, n < UInt64.size

/-- The numbers in a view fit sixty-four bits. -/
def View.Fits (v : View) : Prop :=
  (∀ t ∈ v.ticket?, t < UInt64.size) ∧ ∀ h ∈ v.hits, h.Fits

/-- The numbers in a response fit sixty-four bits. -/
def Response.Fits : Response → Prop
  | .ok view => view.Fits
  | .error _ _ => True

/-- The scores in a response. -/
def Response.scores : Response → List Float
  | .ok view => view.hits.map (·.score)
  | .error _ _ => []

/-- The order of the members does not matter for whether they are readable. -/
theorem Json.Value.IsReadable.swapped {v : Value} (h : v.IsReadable) : v.swapped.IsReadable := by
  cases v with
  | object members =>
    exact membersReadable_iff.mpr fun m hm => membersReadable_iff.mp h m (List.mem_reverse.mp hm)
  | _ => exact h

/-! ### Requests -/

/-- A position is read back, and so is its absence. -/
theorem selection?_document {index : Option Nat} (h : ∀ i ∈ index, i < UInt64.size) :
    selection? (some (selectionJson index).document) = some index := by
  cases index with
  | none => rfl
  | some i =>
    show ((natJson i).document.nat?).map some = some (some i)
    rw [natJson, nat?_document (h i rfl)]
    rfl

/-- A position that fits is readable. -/
theorem isReadable_selectionJson {index : Option Nat} (h : ∀ i ∈ index, i < UInt64.size) :
    (selectionJson index).IsReadable := by
  cases index with
  | none => exact ⟨trivial, trivial⟩
  | some i => exact ⟨⟨Int.natCast_nonneg i, Int.ofNat_lt.mpr (h i rfl)⟩, trivial⟩

/-- A request whose position fits is readable. -/
theorem Request.isReadable_toJson {r : Request} (h : r.Fits) : r.toJson.IsReadable := by
  cases r with
  | tab index | execute index => exact ⟨trivial, isReadable_selectionJson h, trivial⟩
  | escape | backspace => exact ⟨trivial, trivial⟩
  | _ => exact ⟨trivial, ⟨trivial, trivial⟩, trivial⟩

/-- The document of a request is read as the request. -/
theorem Request.ofDocument?_toJson {r : Request} (h : r.Fits) :
    Request.ofDocument? r.toJson.document = some r := by
  cases r with
  | tab index =>
    -- Only these two kinds have a content that tells something.
    have hindex : selection? (some (selectionJson index).document) = some index :=
      selection?_document h
    show (selection? (some (selectionJson index).document)).map Request.tab = _
    rw [hindex]
    rfl
  | execute index =>
    have hindex : selection? (some (selectionJson index).document) = some index :=
      selection?_document h
    show (selection? (some (selectionJson index).document)).map Request.execute = _
    rw [hindex]
    rfl
  | _ => rfl

/-- A content may come before its kind. -/
theorem Request.ofDocument?_swapped (name : String) {content : Value} (h : content.IsReadable)
    (hdepth : content.document.depth < depthLimit) :
    Request.ofDocument? (requestJson name content).swapped.document =
      Request.ofDocument? (requestJson name content).document := by
  have hlate : requestKinds.tagged? "kind" "payload" (requestJson name content).swapped.document =
      some ⟨name, some content.document, true⟩ := rfl
  have hfirst : requestKinds.tagged? "kind" "payload" (requestJson name content).document =
      some ⟨name, some content.document, false⟩ := rfl
  have hreadable : (Tagged.mk name (some content.document) true).isReadable = true := by
    simp [Tagged.isReadable, isSound_document content h, hdepth]
  unfold Request.ofDocument?
  rw [hlate, hfirst, Option.bind_eq_bind, Option.bind_some, hreadable]
  rfl

/-- The text of a request is read as the request. -/
theorem Request.parse?_text {r : Request} (h : r.Fits) : Request.parse? r.text = some r := by
  unfold Request.parse? Request.text Value.compact
  rw [String.toList_ofList, document?_chars (isReadable_toJson h)]
  exact ofDocument?_toJson h

/-- So is the text with the content before the kind. -/
theorem Request.parse?_swapped {r : Request} (h : r.Fits) :
    Request.parse? r.toJson.swapped.compact = some r := by
  have hswapped : Request.ofDocument? r.toJson.swapped.document = some r := by
    refine Eq.trans ?_ (ofDocument?_toJson h)
    -- A content is an object of one member, which holds no other.
    have hdepth : 1 < depthLimit := by decide
    cases r with
    | tab index | execute index =>
      have hselection : (selectionJson index).document.depth = 1 := by cases index <;> rfl
      exact ofDocument?_swapped _ (isReadable_selectionJson h) (hselection ▸ hdepth)
    | escape | backspace => rfl
    | _ => exact ofDocument?_swapped _ ⟨trivial, trivial⟩ hdepth
  unfold Request.parse? Value.compact
  rw [String.toList_ofList, document?_chars (isReadable_toJson h).swapped]
  exact hswapped

/-! ### Results -/

/-- An action is read back. -/
theorem Action.ofDocument?_toJson (a : Action) : Action.ofDocument? a.toJson.document = some a := by
  cases a <;> rfl

/-- A result is read back, if its score is. -/
theorem HitView.ofDocument?_toJson {h : HitView} (hfits : h.Fits) (hscore : ReadsBack h.score) :
    HitView.ofDocument? h.toJson.document = some h := by
  obtain ⟨title, subtitle, kind, action, score, highlights, keyword, acceptsParam⟩ := h
  have hkind : Document.word? HitKind.words (Value.string kind.name).document = some kind := by
    cases kind <;> rfl
  have hhighlights : Document.list? Document.nat? (Value.array (highlights.map natJson)).document =
      some highlights := list?_document fun n hn => nat?_document (hfits n hn)
  -- The keyword is a member only if there is one; the others are read in the same way then.
  have hread : HitView.ofDocument?
      (HitView.mk title subtitle kind action score highlights keyword acceptsParam).toJson.document =
      (do return {
        title, subtitle
        kind := ← Document.word? HitKind.words (Value.string kind.name).document
        action := ← Action.ofDocument? action.toJson.document
        score := ← (Value.float score).document.float?
        highlights := ←
          Document.list? Document.nat? (Value.array (highlights.map natJson)).document
        keyword, acceptsParam }) := by
    cases keyword <;> rfl
  rw [hread, hkind, Action.ofDocument?_toJson, float?_document hscore, hhighlights]
  rfl

/-- A group is read back, if its results are. -/
theorem GroupView.ofDocument?_toJson {g : GroupView} (hfits : ∀ h ∈ g.hits, h.Fits)
    (hscore : ∀ h ∈ g.hits, ReadsBack h.score) :
    GroupView.ofDocument? g.toJson.document = some g := by
  have hhits : Document.list? HitView.ofDocument?
      (Value.array (g.hits.map HitView.toJson)).document = some g.hits :=
    list?_document fun h hh => HitView.ofDocument?_toJson (hfits h hh) (hscore h hh)
  show (do return GroupView.mk g.label (← Document.list? HitView.ofDocument?
    (Value.array (g.hits.map HitView.toJson)).document)) = _
  rw [hhits]
  rfl

/-- A notice is read back. -/
theorem Notice.ofDocument?_toJson (n : Notice) :
    Notice.ofDocument? n.toJson.document = some n := by
  cases n <;> rfl

/-- So it is together with its message. -/
theorem NoticeView.ofDocument?_toJson (n : NoticeView) :
    NoticeView.ofDocument? n.toJson.document = some n := by
  show (do return NoticeView.mk (← Notice.ofDocument? n.notice.toJson.document) n.message) = _
  rw [Notice.ofDocument?_toJson]
  rfl

/-! ### Views -/

/-- Results are read back with their groups and notices. -/
theorem ResultsView.ofDocument?_toJson {r : ResultsView} (hfits : (View.results r).Fits)
    (hscore : ∀ h ∈ (View.results r).hits, ReadsBack h.score) :
    ResultsView.ofDocument? r.toJson.document = some r := by
  -- What is assumed of all results holds for those of each group.
  have hmem {g : GroupView} (hg : g ∈ r.groups) {h : HitView} (hh : h ∈ g.hits) :
      h ∈ (View.results r).hits := List.mem_flatMap.mpr ⟨g, hg, hh⟩
  have hticket : (natJson r.ticket).document.nat? = some r.ticket :=
    nat?_document (hfits.1 r.ticket rfl)
  have hgroups : Document.list? GroupView.ofDocument?
      (Value.array (r.groups.map GroupView.toJson)).document = some r.groups :=
    list?_document fun g hg => GroupView.ofDocument?_toJson
      (fun h hh => hfits.2 h (hmem hg hh)) fun h hh => hscore h (hmem hg hh)
  have hnotices : Document.list? NoticeView.ofDocument?
      (Value.array (r.notices.map NoticeView.toJson)).document = some r.notices :=
    list?_document fun n _ => NoticeView.ofDocument?_toJson n
  show (do
    return ResultsView.mk (← (natJson r.ticket).document.nat?) r.query
      (← Document.list? GroupView.ofDocument?
        (Value.array (r.groups.map GroupView.toJson)).document)
      (← Document.list? NoticeView.ofDocument?
        (Value.array (r.notices.map NoticeView.toJson)).document)) = _
  rw [hticket, hgroups, hnotices]
  rfl

/-- A view is read back, of whichever kind it is. -/
theorem View.ofDocument?_toJson {v : View} (hfits : v.Fits)
    (hscore : ∀ h ∈ v.hits, ReadsBack h.score) : View.ofDocument? v.toJson.document = some v := by
  cases v with
  | results r =>
    show (ResultsView.ofDocument? r.toJson.document).map View.results = _
    rw [ResultsView.ofDocument?_toJson hfits hscore]
    rfl
  | command hit =>
    have hmem : hit ∈ (View.command hit).hits := List.mem_singleton.mpr rfl
    show (HitView.ofDocument? hit.toJson.document).map View.command = _
    rw [HitView.ofDocument?_toJson (hfits.2 hit hmem) (hscore hit hmem)]
    rfl
  | submitted ticket =>
    show ((natJson ticket).document.nat?).map View.submitted = _
    rw [natJson, nat?_document (hfits.1 ticket rfl)]
    rfl
  | superseded | unchanged => rfl
  | executed action builtIn =>
    have hread : View.ofDocument? (View.executed action builtIn).toJson.document =
        (do return .executed (← Action.ofDocument? action.toJson.document) builtIn) := by
      cases builtIn <;> rfl
    rw [hread, Action.ofDocument?_toJson]
    rfl
  | clipboard captured => rfl

/-! ### Responses -/

theorem Action.isReadable_toJson (a : Action) : a.toJson.IsReadable :=
  ⟨trivial, trivial, trivial⟩

/-- A result is readable, if its score is read back. -/
theorem HitView.isReadable_toJson {h : HitView} (hfits : h.Fits) (hscore : ReadsBack h.score) :
    h.toJson.IsReadable := by
  have hhighlights : itemsReadable (h.highlights.map natJson) :=
    itemsReadable_map fun n hn => ⟨Int.natCast_nonneg n, Int.ofNat_lt.mpr (hfits n hn)⟩
  refine membersReadable_iff.mpr ?_
  cases h.keyword <;>
    simp [Action.isReadable_toJson, Value.IsReadable, hscore, hhighlights]

/-- A result holds an action, and that nothing further. -/
theorem HitView.depth_toJson (h : HitView) : h.toJson.document.depth ≤ 2 := by
  have haction : h.action.toJson.document.depth = 1 := by cases h.action <;> rfl
  have hhighlights : itemsDepth (itemDocuments (h.highlights.map natJson)) ≤ 0 :=
    itemsDepth_map_le fun n _ => Nat.le_refl 0
  cases hkeyword : h.keyword <;>
    simp [HitView.toJson, hkeyword, Value.document, memberDocuments, Document.depth, membersDepth,
      haction, hhighlights]

/-- A group is readable, if its results are. -/
theorem GroupView.isReadable_toJson {g : GroupView} (hfits : ∀ h ∈ g.hits, h.Fits)
    (hscore : ∀ h ∈ g.hits, ReadsBack h.score) : g.toJson.IsReadable :=
  ⟨trivial, itemsReadable_map fun h hh => HitView.isReadable_toJson (hfits h hh) (hscore h hh),
    trivial⟩

/-- A group holds a list of results. -/
theorem GroupView.depth_toJson (g : GroupView) : g.toJson.document.depth ≤ 4 := by
  have hhits : itemsDepth (itemDocuments (g.hits.map HitView.toJson)) ≤ 2 :=
    itemsDepth_map_le fun h _ => h.depth_toJson
  simp only [GroupView.toJson, Value.document, memberDocuments, Document.depth, membersDepth]
  omega

/-- A notice is readable. -/
theorem NoticeView.isReadable_toJson (n : NoticeView) : n.toJson.IsReadable := by
  have hnotice : n.notice.toJson.IsReadable := by
    cases n.notice with
    | ratesNotConfigured => exact ⟨trivial, trivial⟩
    | ratesUnavailable reason => exact ⟨trivial, trivial, trivial⟩
  exact ⟨hnotice, trivial, trivial⟩

/-- A notice holds at most one other object. -/
theorem NoticeView.depth_toJson (n : NoticeView) : n.toJson.document.depth ≤ 2 := by
  have hnotice : n.notice.toJson.document.depth = 1 := by cases n.notice <;> rfl
  simp [NoticeView.toJson, Value.document, memberDocuments, Document.depth, membersDepth, hnotice]

/-- Results are readable, if each of them is. -/
theorem ResultsView.isReadable_toJson {r : ResultsView} (hfits : (View.results r).Fits)
    (hscore : ∀ h ∈ (View.results r).hits, ReadsBack h.score) : r.toJson.IsReadable := by
  have hmem {g : GroupView} (hg : g ∈ r.groups) {h : HitView} (hh : h ∈ g.hits) :
      h ∈ (View.results r).hits := List.mem_flatMap.mpr ⟨g, hg, hh⟩
  have hticket : (natJson r.ticket).IsReadable :=
    ⟨Int.natCast_nonneg _, Int.ofNat_lt.mpr (hfits.1 r.ticket rfl)⟩
  have hgroups : itemsReadable (r.groups.map GroupView.toJson) :=
    itemsReadable_map fun g hg => GroupView.isReadable_toJson
      (fun h hh => hfits.2 h (hmem hg hh)) fun h hh => hscore h (hmem hg hh)
  have hnotices : itemsReadable (r.notices.map NoticeView.toJson) :=
    itemsReadable_map fun n _ => n.isReadable_toJson
  exact ⟨hticket, trivial, hgroups, hnotices, trivial⟩

/-- Results hold lists of groups and of notices. -/
theorem ResultsView.depth_toJson (r : ResultsView) : r.toJson.document.depth ≤ 6 := by
  have hgroups : itemsDepth (itemDocuments (r.groups.map GroupView.toJson)) ≤ 4 :=
    itemsDepth_map_le fun g _ => g.depth_toJson
  have hnotices : itemsDepth (itemDocuments (r.notices.map NoticeView.toJson)) ≤ 4 :=
    itemsDepth_map_le fun n _ => Nat.le_trans n.depth_toJson (by decide)
  simp only [ResultsView.toJson, natJson, Value.document, memberDocuments, Document.depth,
    membersDepth]
  omega

/-- A view is readable, of whichever kind it is. -/
theorem View.isReadable_toJson {v : View} (hfits : v.Fits)
    (hscore : ∀ h ∈ v.hits, ReadsBack h.score) : v.toJson.IsReadable := by
  cases v with
  | results r => exact ⟨trivial, ResultsView.isReadable_toJson hfits hscore, trivial⟩
  | command hit =>
    have hmem : hit ∈ (View.command hit).hits := List.mem_singleton.mpr rfl
    have hhit := HitView.isReadable_toJson (hfits.2 hit hmem) (hscore hit hmem)
    exact ⟨trivial, ⟨hhit, trivial⟩, trivial⟩
  | submitted ticket =>
    have hticket : (natJson ticket).IsReadable :=
      ⟨Int.natCast_nonneg _, Int.ofNat_lt.mpr (hfits.1 ticket rfl)⟩
    exact ⟨trivial, ⟨hticket, trivial⟩, trivial⟩
  | superseded | unchanged => exact ⟨trivial, trivial⟩
  | executed action builtIn =>
    cases builtIn with
    | none => exact ⟨trivial, ⟨action.isReadable_toJson, trivial⟩, trivial⟩
    | some id => exact ⟨trivial, ⟨action.isReadable_toJson, trivial, trivial⟩, trivial⟩
  | clipboard captured => exact ⟨trivial, ⟨trivial, trivial⟩, trivial⟩

/-- A view is at most one level deeper than results. -/
theorem View.depth_toJson (v : View) : v.toJson.document.depth ≤ 7 := by
  cases v with
  | results r =>
    have hresults := r.depth_toJson
    simp only [View.toJson, requestJson, variant, Value.document, memberDocuments,
      Document.depth, membersDepth]
    omega
  | command hit =>
    have hhit := hit.depth_toJson
    simp only [View.toJson, requestJson, variant, Value.document, memberDocuments,
      Document.depth, membersDepth]
    omega
  | executed action builtIn =>
    have haction : action.toJson.document.depth = 1 := by cases action <;> rfl
    cases builtIn <;>
      simp [View.toJson, requestJson, variant, Value.document, memberDocuments, Document.depth,
        membersDepth, haction]
  | submitted ticket | clipboard captured => exact Nat.le_add_left 2 5
  | superseded | unchanged => exact Nat.le_add_left 1 6

/-- A response is readable, if its scores are read back. -/
theorem Response.isReadable_toJson {r : Response} (hfits : r.Fits)
    (hscore : ∀ x ∈ r.scores, ReadsBack x) : r.toJson.IsReadable := by
  cases r with
  | ok view =>
    have hview := View.isReadable_toJson hfits fun h hh => hscore _ (List.mem_map_of_mem hh)
    exact ⟨trivial, hview, trivial⟩
  | error code message => exact ⟨trivial, ⟨trivial, trivial, trivial⟩, trivial⟩

/-- A response is at most eight levels deep. -/
theorem Response.depth_toJson (r : Response) : r.toJson.document.depth ≤ 8 := by
  cases r with
  | ok view =>
    have hview := view.depth_toJson
    simp only [Response.toJson, variant, Value.document, memberDocuments, Document.depth,
      membersDepth]
    omega
  | error code message => exact Nat.le_add_left 2 6

/-- The document of a response is read as the response. -/
theorem Response.ofDocument?_toJson {r : Response} (hfits : r.Fits)
    (hscore : ∀ x ∈ r.scores, ReadsBack x) : Response.ofDocument? r.toJson.document = some r := by
  have hsound := isSound_document _ (Response.isReadable_toJson hfits hscore)
  -- The reader refuses documents that are too deep, and this one is far from that.
  have hdepth : ¬ depthLimit < r.toJson.document.depth :=
    Nat.not_lt.mpr (Nat.le_trans r.depth_toJson (by decide))
  unfold Response.ofDocument?
  rw [hsound, decide_eq_false hdepth]
  cases r with
  | ok view =>
    have hview := View.ofDocument?_toJson hfits fun h hh => hscore _ (List.mem_map_of_mem hh)
    show (View.ofDocument? view.toJson.document).map Response.ok = _
    rw [hview]
    rfl
  | error code message => cases code <;> rfl

/-- The text of a response is read as the response. -/
theorem Response.parse?_text {r : Response} (hfits : r.Fits)
    (hscore : ∀ x ∈ r.scores, ReadsBack x) : Response.parse? r.text = some r := by
  unfold Response.parse? Response.text Value.compact
  rw [String.toList_ofList, document?_chars (isReadable_toJson hfits hscore)]
  exact ofDocument?_toJson hfits hscore

/-- **What is sent is read back**: every request, in either order of its kind and its content, and
every response whose scores are read back from their own texts. -/
theorem messages_read_back :
    (∀ r : Request, r.Fits →
      Request.parse? r.text = some r ∧ Request.parse? r.toJson.swapped.compact = some r) ∧
    ∀ r : Response, r.Fits → (∀ x ∈ r.scores, ReadsBack x) → Response.parse? r.text = some r :=
  ⟨fun _ h => ⟨Request.parse?_text h, Request.parse?_swapped h⟩,
    fun _ hfits hscore => Response.parse?_text hfits hscore⟩

/-- A result whose texts need every kind of escape. -/
def quotedHit : HitView where
  title := "\"€5.00\"\\\n\u0001"
  subtitle := "10 USD to EUR\tat\r0.5\u2028"
  kind := .currencyConversion
  action := .copyText "€5.00"
  score := 0.8
  highlights := [0, 18446744073709551615]
  keyword := none
  acceptsParam := false

/-- A position read from a swapped request, and a result with every kind of escape. -/
theorem messages_read_back_quoted :
    (Request.tab (some 3)).Fits ∧ (Response.ok (.command quotedHit)).Fits ∧
    (∀ x ∈ (Response.ok (.command quotedHit)).scores, ReadsBack x) ∧
    Request.parse? (Request.tab (some 3)).toJson.swapped.compact = some (.tab (some 3)) ∧
    Response.parse? (Response.ok (.command quotedHit)).text =
      some (.ok (.command quotedHit)) := by
  have hrequest : (Request.tab (some 3)).Fits := by rintro i ⟨⟩; decide
  have hresponse : (Response.ok (.command quotedHit)).Fits := by
    refine ⟨nofun, ?_⟩
    rintro h (_ | ⟨_, ⟨⟩⟩)
    show ∀ n ∈ [0, 18446744073709551615], n < UInt64.size
    decide
  have hscore : ∀ x ∈ (Response.ok (.command quotedHit)).scores, ReadsBack x := by
    rintro x (_ | ⟨_, ⟨⟩⟩)
    exact ⟨⟨false, ['0'], some ['8'], none⟩, by decide +kernel, rfl⟩
  exact ⟨hrequest, hresponse, hscore, (messages_read_back.1 _ hrequest).2,
    messages_read_back.2 _ hresponse hscore⟩

end Launcher
