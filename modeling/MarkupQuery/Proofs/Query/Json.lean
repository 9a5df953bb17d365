import Mathlib.Data.List.Forall2
import MarkupQuery.Proofs.Query.Declare
import MarkupQuery.Query.Json

/-!
# Queries read from JSON

A value writes a query if it is a string, or an object that holds a string once under the key of the
container and values that write queries under all other keys (`Json.IsQuery`). An object reads as
what is made of its container by declaring the members under other keys one after the other, in the
order of the text (`Component.ofMembers?_eq_some_iff`). The container may stand anywhere among them,
and it never becomes a property, in no component inside either (`Component.Within`).
-/

namespace MarkupQuery

namespace Json

/-- What an object holds under the key of the container, in the order of the text. -/
def containerValues (members : List (JsonString × Json)) : List Json :=
  (members.filter (·.1 = some containerKey)).map Prod.snd

/-- The members of an object under other keys, in the order of the text. -/
def propertyMembers (members : List (JsonString × Json)) : List (JsonString × Json) :=
  members.filter (·.1 ≠ some containerKey)

/-- Whether a value writes a query. A key with half of a surrogate pair in it is no name. -/
inductive IsQuery : Json → Prop where
  | locator (s : String) : IsQuery (.str (some s))
  | component {members : List (JsonString × Json)} {container : String}
      (once : containerValues members = [.str (some container)])
      (named : ∀ m ∈ propertyMembers members, m.1.isSome = true)
      (each : ∀ m ∈ propertyMembers members, IsQuery m.2) : IsQuery (.obj members)

def isObject : Json → Bool
  | .obj _ => true
  | _ => false

/-- Whether a member declares a property: its key is the name, and its value writes the query. -/
def Declares (m : JsonString × Json) (p : String × Query) : Prop :=
  m.1 = some p.1 ∧ Query.ofJson? m.2 = some p.2

theorem containerValues_cons_self (v : Json) (members : List (JsonString × Json)) :
    containerValues ((some containerKey, v) :: members) = v :: containerValues members := by
  simp [containerValues]

theorem containerValues_cons_ne {key : JsonString} (h : key ≠ some containerKey) (v : Json)
    (members : List (JsonString × Json)) :
    containerValues ((key, v) :: members) = containerValues members := by
  simp [containerValues, h]

theorem propertyMembers_cons_self (v : Json) (members : List (JsonString × Json)) :
    propertyMembers ((some containerKey, v) :: members) = propertyMembers members := by
  simp [propertyMembers]

theorem propertyMembers_cons_ne {key : JsonString} (h : key ≠ some containerKey) (v : Json)
    (members : List (JsonString × Json)) :
    propertyMembers ((key, v) :: members) = (key, v) :: propertyMembers members := by
  simp [propertyMembers, h]

end Json

open Json

/-! ### Members one after the other -/

namespace Component

theorem ofMembers?_cons_ne {key : String} (h : key ≠ containerKey) (container? : Option String)
    (ps : List (String × Query)) (v : Json) (members : List (JsonString × Json)) :
    ofMembers? container? ps ((some key, v) :: members) =
      (Query.ofJson? v).bind fun q => ofMembers? container? (insertProperty key q ps) members := by
  simp [ofMembers?, h]

/-- What is read from the members that are left, when a container may have been found and some
properties have been declared. -/
theorem ofMembers?_eq_some_iff {members : List (JsonString × Json)} {container? : Option String}
    {ps : List (String × Query)} {c : Component} :
    ofMembers? container? ps members = some c ↔
      ∃ container declared,
        (container?.toList.map fun s => Json.str (some s)) ++ containerValues members =
          [.str (some container)] ∧
        List.Forall₂ Declares (propertyMembers members) declared ∧
        c = declareAll ⟨container, ps⟩ declared := by
  induction members generalizing container? ps with
  | nil =>
      rw [ofMembers?]
      cases container? with
      | none => simp [containerValues]
      | some s => simp [containerValues, propertyMembers, declareAll, eq_comm]
  | cons m members ih =>
      obtain ⟨_ | key, v⟩ := m
      · -- a key that is no name declares nothing
        rw [ofMembers?, propertyMembers_cons_ne (by simp)]
        refine iff_of_false (by simp) ?_
        rintro ⟨container, declared, -, heach, -⟩
        cases heach with
        | cons hm _ => cases hm.1
      by_cases hkey : key = containerKey
      · subst hkey
        rw [containerValues_cons_self, propertyMembers_cons_self]
        cases container? with
        | some s => simp [ofMembers?]
        | none =>
            cases v with
            | str s =>
                cases s with
                | none => simp [ofMembers?]
                | some s =>
                    rw [ofMembers?, if_pos rfl, ih]
                    simp
            | null | bool _ | num _ | arr _ | obj _ => simp [ofMembers?]
      · have hne : some key ≠ some containerKey := fun h => hkey (Option.some.inj h)
        rw [containerValues_cons_ne hne, propertyMembers_cons_ne hne, ofMembers?_cons_ne hkey,
          Option.bind_eq_some_iff]
        constructor
        · rintro ⟨q, hq, h⟩
          obtain ⟨container, declared, honce, heach, rfl⟩ := ih.mp h
          exact ⟨container, (key, q) :: declared, honce, .cons ⟨rfl, hq⟩ heach, rfl⟩
        · rintro ⟨container, declared, honce, heach, rfl⟩
          cases heach with
          | @cons _ p _ declared hp heach =>
              obtain ⟨hname, hq⟩ := hp
              obtain rfl := Option.some.inj hname
              exact ⟨p.2, hq, ih.mpr ⟨container, declared, honce, heach, rfl⟩⟩

/-- An object reads as what is made of its container by declaring the other members. -/
theorem ofJson?_obj_eq_some_iff {members : List (JsonString × Json)} {c : Component} :
    ofJson? (.obj members) = some c ↔
      ∃ container declared, containerValues members = [.str (some container)] ∧
        List.Forall₂ Declares (propertyMembers members) declared ∧
        c = (new container).declareAll declared := by
  rw [ofJson?, ofMembers?_eq_some_iff]
  rfl

end Component

/-! ### Which values write queries -/

theorem Query.ofJson?_obj (members : List (JsonString × Json)) :
    Query.ofJson? (.obj members) = (Component.ofJson? (.obj members)).map .component := by
  rw [Query.ofJson?, Component.ofJson?]

/-- A value reads as a component in both ways. -/
theorem Query.ofJson?_eq_component_iff {j : Json} {c : Component} :
    Query.ofJson? j = some (.component c) ↔ Component.ofJson? j = some c := by
  cases j with
  | obj members => simp [Query.ofJson?_obj]
  | str s => cases s <;> simp [Query.ofJson?, Component.ofJson?]
  | null | bool _ | num _ | arr _ => simp [Query.ofJson?, Component.ofJson?]

namespace Json

theorem exists_forall₂_declares {members : List (JsonString × Json)} :
    (∃ declared, List.Forall₂ Declares members declared) ↔
      ∀ m ∈ members, m.1.isSome = true ∧ ∃ q, Query.ofJson? m.2 = some q := by
  induction members with
  | nil => exact iff_of_true ⟨[], .nil⟩ (by simp)
  | cons m members ih =>
      rw [List.forall_mem_cons, ← ih]
      constructor
      · rintro ⟨declared, heach⟩
        cases heach with
        | @cons _ p _ declared hp heach =>
            exact ⟨⟨Option.isSome_iff_exists.mpr ⟨p.1, hp.1⟩, p.2, hp.2⟩, declared, heach⟩
      · rintro ⟨⟨hname, q, hq⟩, declared, heach⟩
        obtain ⟨name, hname⟩ := Option.isSome_iff_exists.mp hname
        exact ⟨(name, q) :: declared, .cons ⟨hname, hq⟩ heach⟩

/-- In two lists related member by member, every member of the second is related to one of the
first. -/
theorem exists_of_mem_forall₂ {α β : Type} {R : α → β → Prop} {as : List α} {bs : List β}
    (h : List.Forall₂ R as bs) {b : β} (hb : b ∈ bs) : ∃ a ∈ as, R a b := by
  induction h with
  | nil => cases hb
  | @cons a b' as bs hab _ ih =>
      rcases List.mem_cons.mp hb with rfl | hb
      · exact ⟨a, List.mem_cons_self, hab⟩
      · obtain ⟨a', ha', hab'⟩ := ih hb
        exact ⟨a', List.mem_cons_of_mem _ ha', hab'⟩

mutual

/-- A value reads as a query exactly if it writes one. -/
theorem exists_ofJson?_iff : ∀ j : Json, (∃ q, Query.ofJson? j = some q) ↔ j.IsQuery
  | .str (some s) => iff_of_true ⟨.raw s, by rw [Query.ofJson?]⟩ (.locator s)
  | .obj members => by
      have hvalues := exists_ofJson?_iff_of_mem members
      have hread : (∃ q, Query.ofJson? (.obj members) = some q) ↔
          ∃ container, containerValues members = [.str (some container)] ∧
            ∀ m ∈ propertyMembers members, m.1.isSome = true ∧ ∃ q, Query.ofJson? m.2 = some q := by
        simp only [Query.ofJson?_obj, Option.map_eq_some_iff, Component.ofJson?_obj_eq_some_iff,
          ← exists_forall₂_declares]
        constructor
        · rintro ⟨_, _, ⟨container, declared, honce, heach, -⟩, -⟩
          exact ⟨container, honce, declared, heach⟩
        · rintro ⟨container, honce, declared, heach⟩
          exact ⟨_, _, ⟨container, declared, honce, heach, rfl⟩, rfl⟩
      rw [hread]
      constructor
      · rintro ⟨container, honce, heach⟩
        refine .component honce (fun m hm => (heach m hm).1) fun m hm => ?_
        exact (hvalues m (List.mem_filter.mp hm).1).mp (heach m hm).2
      · intro h
        cases h with
        | @component _ container honce hnamed heach =>
            refine ⟨container, honce, fun m hm => ⟨hnamed m hm, ?_⟩⟩
            exact (hvalues m (List.mem_filter.mp hm).1).mpr (heach m hm)
  | .str none | .null | .bool _ | .num _ | .arr _ =>
      iff_of_false (by simp [Query.ofJson?]) nofun

theorem exists_ofJson?_iff_of_mem : ∀ (members : List (JsonString × Json)), ∀ m ∈ members,
    (∃ q, Query.ofJson? m.2 = some q) ↔ m.2.IsQuery
  | [], _, h => absurd h List.not_mem_nil
  | (key, j) :: members, m, h => by
      rcases List.mem_cons.mp h with rfl | h
      · exact exists_ofJson?_iff j
      · exact exists_ofJson?_iff_of_mem members m h

end

end Json

/-! ### Components inside a component -/

namespace Component

/-- A component stands in another one: it is that one, or it is the query of a property of one that
stands in it. -/
inductive Within : Component → Component → Prop where
  | self (c : Component) : Within c c
  | property {c e d : Component} {name : String} (h : (name, .component e) ∈ c.properties)
      (within : Within e d) : Within c d

/-- What stands in a component that was read was read from a value itself. -/
theorem Within.exists_ofJson? {c d : Component} (h : c.Within d) {j : Json}
    (hread : ofJson? j = some c) : ∃ j', ofJson? j' = some d := by
  induction h generalizing j with
  | self c => exact ⟨j, hread⟩
  | @property c e d name hmem _ ih =>
      cases j with
      | obj members =>
          obtain ⟨container, declared, -, heach, rfl⟩ := ofJson?_obj_eq_some_iff.mp hread
          obtain ⟨m, -, -, hvalue⟩ :=
            exists_of_mem_forall₂ heach (mem_of_mem_properties_declareAll hmem)
          exact ih (Query.ofJson?_eq_component_iff.mp hvalue)
      | _ => cases hread

/-- The container of a component that was read is no property of it. -/
theorem containerKey_not_mem_of_ofJson? {j : Json} {c : Component}
    (hread : Component.ofJson? j = some c) : containerKey ∉ c.propertyNames := by
  cases j with
  | obj members =>
      obtain ⟨container, declared, -, heach, rfl⟩ := ofJson?_obj_eq_some_iff.mp hread
      rw [propertyNames_declareAll, List.mem_eraseDups, List.mem_map]
      rintro ⟨p, hp, hname⟩
      obtain ⟨m, hm, hkey, -⟩ := exists_of_mem_forall₂ heach hp
      rw [hname] at hkey
      simp [propertyMembers, hkey] at hm
  | _ => cases hread

end Component

/-- A JSON value reads as a query exactly if it is a string, or an object in which the key of the
container stands once, with a string, and every other value reads as a query too; it reads as a
component exactly if it is such an object. A string is a locator. An object is the component that is
made of its container by declaring the other members in the order of the text: a name stands where
it came first and holds what came last. At no depth the container is a property. -/
theorem Query.ofJson?_iff_declared :
    (∀ j, (∃ q, Query.ofJson? j = some q) ↔ j.IsQuery) ∧
    (∀ j, (∃ c, Component.ofJson? j = some c) ↔ j.IsQuery ∧ j.isObject = true) ∧
    (∀ s, Query.ofJson? (.str (some s)) = some (.raw s)) ∧
    (∀ j c, Query.ofJson? j = some (.component c) ↔ Component.ofJson? j = some c) ∧
    (∀ members c, Component.ofJson? (.obj members) = some c ↔
      ∃ container declared,
        containerValues members = [.str (some container)] ∧
        List.Forall₂ Declares (propertyMembers members) declared ∧
        c = (Component.new container).declareAll declared ∧
        c.container = container ∧
        c.propertyNames = (declared.map Prod.fst).eraseDups ∧
        ∀ name, c.property? name = declared.reverse.lookup name) ∧
    ∀ j c d, Component.ofJson? j = some c → c.Within d → containerKey ∉ d.propertyNames := by
  refine ⟨Json.exists_ofJson?_iff, ?_, ?_, fun _ _ => Query.ofJson?_eq_component_iff, ?_, ?_⟩
  · intro j
    rw [← Json.exists_ofJson?_iff]
    cases j with
    | obj members => simp [Query.ofJson?_obj, Json.isObject]
    | _ => simp [Component.ofJson?, Json.isObject]
  · intro s
    rw [Query.ofJson?]
  · intro members c
    rw [Component.ofJson?_obj_eq_some_iff]
    constructor
    · rintro ⟨container, declared, honce, heach, rfl⟩
      exact ⟨container, declared, honce, heach, rfl, Component.container_declareAll _ declared,
        Component.propertyNames_declareAll container declared,
        Component.property?_declareAll container declared⟩
    · rintro ⟨container, declared, honce, heach, hc, -⟩
      exact ⟨container, declared, honce, heach, hc⟩
  · intro j c d hread hwithin
    obtain ⟨j', hread'⟩ := hwithin.exists_ofJson? hread
    exact Component.containerKey_not_mem_of_ofJson? hread'

/-- The members of a footer. The container stands among the properties, one of which is itself a
component and one of which is written twice. -/
def footerMembers : List (JsonString × Json) :=
  [(some "logo", .str (some "img")), (some "container", .str (some "footer")),
    (some "links", .obj [(some "container", .str (some "ul"))]),
    (some "logo", .str (some "> img[src]"))]

/-- The logo stands first, where it was written first, and is what it was written to be last. -/
theorem Query.ofJson?_footer :
    ∃ c, Query.ofJson? (.obj footerMembers) = some (.component c) ∧ c.container = "footer" ∧
      c.propertyNames = ["logo", "links"] ∧ c.property? "logo" = some (.raw "> img[src]") ∧
      ∀ d, c.Within d → containerKey ∉ d.propertyNames := by
  obtain ⟨-, -, hraw, hcomponent, hobject, hwithin⟩ := Query.ofJson?_iff_declared
  have hlinks : Query.ofJson? (.obj [(some "container", .str (some "ul"))]) =
      some (.component (.new "ul")) :=
    (hcomponent _ _).mpr ((hobject _ _).mpr
      ⟨"ul", [], rfl, .nil, rfl, rfl, rfl, fun _ => rfl⟩)
  let declared : List (String × Query) :=
    [("logo", .raw "img"), ("links", .component (.new "ul")), ("logo", .raw "> img[src]")]
  have hfooter : Component.ofJson? (.obj footerMembers) =
      some ((Component.new "footer").declareAll declared) :=
    (hobject _ _).mpr ⟨"footer", declared, rfl,
      .cons ⟨rfl, hraw _⟩ (.cons ⟨rfl, hlinks⟩ (.cons ⟨rfl, hraw _⟩ .nil)), rfl, rfl, rfl,
      Component.property?_declareAll "footer" declared⟩
  exact ⟨_, (hcomponent _ _).mpr hfooter, rfl, rfl, rfl, fun d => hwithin _ _ d hfooter⟩

end MarkupQuery
