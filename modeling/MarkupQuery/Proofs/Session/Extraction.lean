import Mathlib
import MarkupQuery.Proofs.Session.First

/-!
# Taking something from what is found

What a query takes from the nodes that it finds does not change which nodes these are. A suffix adds
nothing to a locator but the extraction (`Locator.parse?_append_suffix`), and whatever the next id
is, a search finds nodes of its own tree (`Search.exists_places_of_find`). So with and without a
suffix, and for a component as well, the same nodes are found in the same order, or the query fails
in the same way (`Session.extraction_commutes`).
-/

namespace MarkupQuery

/-! ### Places that are found -/

namespace Search

variable {l : Locator} {css : String} {scope : Cursor} {want : Want} {markers : Marker.Source}
  {paths : List Path} {p : Path}

theorem exists_cursor?_of_top {d : Cursor} (h : d.top = scope.top) :
    ∃ d', scope.top.cursor? d.path = some d' :=
  ⟨d, by rw [← h, d.cursor?_path]⟩

/-- Around a marked scope stand the places of the tree without the mark. -/
theorem exists_cursor?_of_mem_aroundScope {mark : String} {d : Cursor}
    (h : d ∈ aroundScope (scope.mark mark)) : ∃ d', scope.top.cursor? d.path = some d' := by
  by_cases hp : d.path = scope.path
  · rw [hp]
    exact exists_cursor?_of_top rfl
  · have hl := scope.sameBut_mark mark d.path hp
    rw [← top_of_mem_aroundScope h, Cursor.labelAt?_path] at hl
    obtain ⟨d', hd', -⟩ := Cursor.exists_of_labelAt? hl
    exact ⟨d', hd'⟩

theorem exists_cursor?_of_mem_select {entries : Css.SelectorList} {places : List Cursor}
    (hplaces : ∀ d ∈ places, ∃ d', scope.top.cursor? d.path = some d')
    (h : p ∈ select entries places) : ∃ d, scope.top.cursor? p = some d := by
  obtain ⟨d, hd, rfl⟩ := List.mem_map.mp h
  exact hplaces d (List.mem_filter.mp hd).1

theorem exists_cursor?_of_belowChildren
    (h : (belowChildren css scope markers).answer = .ok paths) (hp : p ∈ paths) :
    ∃ d, scope.top.cursor? p = some d := by
  unfold belowChildren at h
  split at h
  · cases h
  · split at h
    · dsimp only at h
      split at h
      · cases h
      · rw [eq_of_orNoMatch h] at hp
        exact exists_cursor?_of_mem_select (fun d hd => exists_cursor?_of_mem_aroundScope hd) hp
    · rw [eq_of_orNoMatch h] at hp
      refine exists_cursor?_of_mem_select (fun d hd => ?_) hp
      exact exists_cursor?_of_top (Cursor.Below.child (Cursor.mem_children.mp hd)).top

theorem exists_cursor?_of_below (h : below css scope want = .ok paths) (hp : p ∈ paths) :
    ∃ d, scope.top.cursor? p = some d := by
  unfold below at h
  split at h
  · cases h
  · rw [eq_of_orNoMatch h] at hp
    refine exists_cursor?_of_mem_select (fun d hd => ?_) (mem_of_mem_cut hp)
    exact exists_cursor?_of_top (Cursor.mem_descendants.mp hd).top

theorem exists_cursor?_of_find (h : (find l scope want markers).answer = .ok paths)
    (hp : p ∈ paths) : ∃ d, scope.top.cursor? p = some d := by
  rcases find_cases l scope with ⟨-, hfind⟩ | ⟨-, hfind⟩ | ⟨-, hfind⟩
  · rw [hfind] at h
    obtain ⟨found, hfound, rfl⟩ := map_eq_ok_iff.mp h
    exact exists_cursor?_of_belowChildren hfound (mem_of_mem_cut hp)
  · rw [hfind] at h
    cases h
    rw [List.mem_singleton.mp hp]
    exact exists_cursor?_of_top rfl
  · rw [hfind] at h
    exact exists_cursor?_of_below h hp

/-- The places of a tree that some paths lead to. -/
theorem exists_places {t : Tree} (h : ∀ p ∈ paths, ∃ d, t.cursor? p = some d) :
    ∃ ds : List Cursor, paths = ds.map Cursor.path ∧ ∀ d ∈ ds, d.top = t := by
  induction paths with
  | nil => exact ⟨[], rfl, by simp⟩
  | cons p paths ih =>
      obtain ⟨ds, hds, htop⟩ := ih fun q hq => h q (List.mem_cons_of_mem _ hq)
      obtain ⟨d, hd⟩ := h p List.mem_cons_self
      refine ⟨d :: ds, ?_, ?_⟩
      · rw [List.map_cons, ← hds]
        exact congrArg (· :: paths) (Cursor.path_of_descend? hd).symm
      · exact List.forall_mem_cons.mpr ⟨Cursor.top_of_cursor? hd, htop⟩

/-- A search finds places of the tree that it runs on, or it fails. -/
theorem exists_places_of_find (l : Locator) (scope : Cursor) (want : Want)
    (markers : Marker.Source) :
    ∃ places : Except Error (List Cursor),
      (find l scope want markers).answer = places.map (List.map Cursor.path) ∧
        ∀ ds, places = .ok ds → ∀ d ∈ ds, d.top = scope.top := by
  cases hfound : (find l scope want markers).answer with
  | error e => exact ⟨.error e, rfl, by simp⟩
  | ok paths =>
      obtain ⟨ds, hds, htop⟩ := exists_places fun p hp => exists_cursor?_of_find hfound hp
      refine ⟨.ok ds, by rw [hds]; rfl, ?_⟩
      rintro _ ⟨⟩
      exact htop

end Search

/-- An attribute is there exactly if the node is an element that has one of this very name in no
name space. -/
theorem Node.attribute?_eq_some_iff {n : Node} {name value : String} :
    n.attribute? name = some value ↔
      ∃ tag attributes, n = .element tag attributes ∧
        attributes.get? (.plain name) = some value := by
  rw [attribute?]
  cases n with
  | element tag attributes => simp [Node.attributes]
  | _ => simp [Node.attributes, Attributes.get?]

namespace Session

variable {s s' : Session} {source : Nat} {scope : Location} {cursor : Cursor} {l : Locator}
  {want : Want}

/-- An answer is made of the places that the search finds, by what is taken from each of them. -/
theorem resolve_eq_map_places {q : Query} {markers : Marker.Source}
    {places : Except Error (List Cursor)} {f : Cursor → Finding}
    (hl : Locator.parse? q.locator = some l) (hcursor : s.page.cursor? scope = some cursor)
    (hsource : s.sources[source]? = some markers)
    (hplaces : (Search.find l cursor want markers).answer = places.map (List.map Cursor.path))
    (htop : ∀ ds, places = .ok ds → ∀ d ∈ ds, d.top = cursor.top)
    (hf : ∀ d, s.page.cursor? ⟨scope.tree, d.path⟩ = some d →
      findingAt s.page l q.component? source ⟨scope.tree, d.path⟩ = f d) :
    (s.resolve source scope q want).2 = places.map (List.map f) := by
  rw [resolve_eq_map hl hcursor hsource, hplaces]
  cases places with
  | error e => rfl
  | ok ds =>
      refine congrArg Except.ok ?_
      dsimp only
      rw [List.map_map]
      refine List.map_congr_left fun d hd => hf d (Page.cursor?_path ?_)
      rw [htop ds rfl d hd]
      exact Page.top_of_cursor? hcursor

/-- What a locator with a suffix takes does not depend on the component. -/
theorem findingAt_of_extraction (h : l.extraction? ≠ none) (page : Page) (c? : Option Component)
    (location : Location) :
    findingAt page l c? source location = findingAt page l none source location := by
  unfold findingAt
  match he : l.extraction? with
  | none => exact absurd he h
  | some .text => rfl
  | some (.attribute _) => rfl

theorem findingAt_ne_view (h : l.extraction? ≠ none) (page : Page) (c? : Option Component)
    (location : Location) : (findingAt page l c? source location).view? = none := by
  cases hf : findingAt page l c? source location with
  | view v => exact absurd (findingAt_eq_view hf).1 h
  | _ => rfl

/-- A locator without a suffix finds places of the tree of the scope, in some order, or it fails; and
from the same places in the same order, or with the same error, the same text with `::text` behind it
takes their texts, with the name of an attribute in brackets the values of this attribute, and a
component with this container their views. An attribute has a value exactly at an element that has
one of this very name in no name space.

A component whose container has a suffix answers what the container answers as it is written, and
none of it is a view. -/
theorem extraction_commutes (s s' : Session) (source : Nat) (scope : Location) (want : Want)
    (cursor : Cursor) (hcursor : s.page.cursor? scope = some cursor)
    (halike : s.SearchesAlike s' source) :
    (∀ b l, Locator.parse? b = some l → l.extraction? = none →
      ∃ places : Except Error (List Cursor),
        (∀ ds, places = .ok ds → ∀ d ∈ ds, d.top = cursor.top) ∧
        (s.resolve source scope (.raw b) want).2 =
          places.map (List.map fun d => .node ⟨scope.tree, d.path⟩) ∧
        (s'.resolve source scope (.raw (b ++ "::text")) want).2 =
          places.map (List.map fun d => .text d.focus.text) ∧
        (∀ name : String, '[' ∉ name.toList →
          (s'.resolve source scope (.raw (b ++ "[" ++ name ++ "]")) want).2 =
            places.map (List.map fun d => .attribute (d.label.attribute? name))) ∧
        ∀ c : Component, c.container = b →
          (s'.resolve source scope (.component c) want).2 =
            places.map (List.map fun d => .view ⟨⟨scope.tree, d.path⟩, c, source⟩)) ∧
    (∀ (n : Node) (name value : String), n.attribute? name = some value ↔
      ∃ tag attributes, n = .element tag attributes ∧
        attributes.get? (.plain name) = some value) ∧
    ∀ c l, Locator.parse? c.container = some l → l.extraction? ≠ none →
      (s'.resolve source scope (.component c) want).2 =
        (s.resolve source scope (.raw c.container) want).2 ∧
      ∀ found, (s'.resolve source scope (.component c) want).2 = .ok found →
        ∀ f ∈ found, f.view? = none := by
  obtain ⟨hpage, m, m', hm, hm', hid⟩ := halike
  have hcursor' : s'.page.cursor? scope = some cursor := hpage ▸ hcursor
  refine ⟨?_, fun n name value => Node.attribute?_eq_some_iff, ?_⟩
  · intro b l hl hnone
    obtain ⟨places, hplaces, htop⟩ := Search.exists_places_of_find l cursor want m
    -- the search reads neither the extraction nor more of the source than the next id
    have hplaces' (e? : Option Extraction) :
        (Search.find { l with extraction? := e? } cursor want m').answer =
          places.map (List.map Cursor.path) := by
      rw [← hplaces]
      exact Search.answer_find_congr rfl rfl hid.symm
    have hread {e : Extraction} := Locator.parse?_append_suffix hl hnone (e := e)
    refine ⟨places, htop, ?_, ?_, ?_, ?_⟩
    · refine resolve_eq_map_places hl hcursor hm hplaces htop fun d hd => ?_
      simp only [findingAt, hnone, Query.component?]
    · have hl' := hread (e := .text) (by simp)
      refine resolve_eq_map_places hl' hcursor' hm' (hplaces' _) htop fun d hd => ?_
      exact congrArg Finding.text (Page.text_of_cursor? hd)
    · intro name hname
      have hl' := hread (e := .attribute name) (by simpa using hname)
      rw [Extraction.suffix, ← String.append_assoc, ← String.append_assoc] at hl'
      refine resolve_eq_map_places hl' hcursor' hm' (hplaces' _) htop fun d hd => ?_
      exact congrArg Finding.attribute (Page.attribute?_of_cursor? hd name)
    · rintro c rfl
      refine resolve_eq_map_places hl hcursor' hm' ?_ htop fun d hd => ?_
      · rw [← hplaces]
        exact Search.answer_find_congr rfl rfl hid.symm
      · simp only [findingAt, hnone, Query.component?]
  · intro c l hl hsome
    have hanswer := resolve_eq_map (q := .component c) hl hcursor' hm' want
    constructor
    · rw [hanswer, resolve_eq_map (q := .raw c.container) hl hcursor hm want, hpage,
        Search.answer_find_congr rfl rfl hid]
      simp only [findingAt_of_extraction hsome]
    · intro found hfound f hf
      obtain ⟨l', _, _, paths, hl', -, -, -, rfl⟩ := exists_of_resolve_eq_ok hfound
      obtain rfl := Option.some.inj (hl.symm.trans hl')
      obtain ⟨path, -, rfl⟩ := List.mem_map.mp hf
      exact findingAt_ne_view hsome s'.page _ ⟨scope.tree, path⟩

/-- A list of two items, of which the first has a title. -/
def titledList : Cursor :=
  ⟨.node (.element (.html "ul") [])
    [.node (.element (.html "li") [(.plain "title", "one")]) [.leaf (.text "first")],
      .node (.element (.html "li") []) [.leaf (.text "second")]],
    [⟨.element (.html "div") [], [], []⟩]⟩

theorem extraction_commutes_titledList :
    ((new titledList.top (.listed ["0"])).resolve 0 ⟨0, [0]⟩ (.raw "> li::text") .all).2 =
        .ok [.text "first", .text "second"] ∧
      ((new titledList.top (.listed ["0"])).resolve 0 ⟨0, [0]⟩ (.raw "> li[title]") .all).2 =
        .ok [.attribute (some "one"), .attribute none] ∧
      ((new titledList.top (.listed ["0"])).resolve 0 ⟨0, [0]⟩
          (.component (.new "> li[title]")) .all).2 =
        ((new titledList.top .counted).resolve 0 ⟨0, [0]⟩ (.raw "> li[title]") .all).2 := by
  have halike : (new titledList.top .counted).SearchesAlike
      (new titledList.top (.listed ["0"])) 0 := ⟨rfl, _, _, rfl, rfl, by decide⟩
  obtain ⟨hcommutes, -, hsuffix⟩ :=
    extraction_commutes _ _ 0 ⟨0, [0]⟩ .all titledList rfl halike
  obtain ⟨places, htop, hnodes, htexts, hattributes, -⟩ :=
    hcommutes "> li" ⟨"li", none, true⟩ (by decide) rfl
  have hfound : ((new titledList.top .counted).resolve 0 ⟨0, [0]⟩ (.raw "> li") .all).2 =
      .ok [.node ⟨0, [0, 0]⟩, .node ⟨0, [0, 1]⟩] := by
    cbv
  have hplaces : places = .ok titledList.children := by
    rw [hfound] at hnodes
    cases places with
    | error e => cases hnodes
    | ok ds =>
        have heach : ds.map Cursor.path = titledList.children.map Cursor.path := by
          have hpaths := congrArg (List.map fun f => (f.node?.map Location.path).getD [])
            (Except.ok.inj hnodes.symm)
          rw [List.map_map] at hpaths
          exact hpaths
        refine congrArg Except.ok (Cursor.eq_of_map_path_eq (htop ds rfl) (fun d hd => ?_) heach)
        exact (Cursor.Below.child (Cursor.mem_children.mp hd)).top
  rw [hplaces] at htexts hattributes
  refine ⟨htexts, hattributes "title" (by decide), ?_⟩
  exact (hsuffix (.new "> li[title]") ⟨"li", some (.attribute "title"), true⟩ (by decide)
    (by decide)).1

end Session

end MarkupQuery
