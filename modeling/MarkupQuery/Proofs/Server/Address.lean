import Mathlib
import MarkupQuery.Server.Basic

/-!
# Addresses of paths

A text is slashes, or it has a middle without slashes at its ends and slashes around that
(`slashes_or_middle`). Joining a base and a path keeps what is left of the one without the slashes
at its end and of the other without those in front, and puts one slash between them
(`joinUrl_append_slashes`). So slashes at the seam do not count, and it does not matter which of two
seams is made first (`Server.url_joins`).
-/

namespace MarkupQuery

def slashes (n : Nat) : String := String.ofList (List.replicate n '/')

def BeginsBare (s : String) : Prop := s.toList.head? ≠ some '/'

def EndsBare (s : String) : Prop := s.toList.getLast? ≠ some '/'

@[simp]
theorem toList_slashes (n : Nat) : (slashes n).toList = List.replicate n '/' :=
  String.toList_ofList

@[simp]
theorem slashes_zero : slashes 0 = "" := rfl

theorem slashes_one : slashes 1 = "/" := rfl

theorem slashes_append_slashes (m n : Nat) : slashes m ++ slashes n = slashes (m + n) := by
  rw [← String.toList_inj]
  simp

theorem beginsBare_empty : BeginsBare "" := by simp [BeginsBare]

theorem endsBare_empty : EndsBare "" := by simp [EndsBare]

theorem BeginsBare.append {s t : String} (hs : BeginsBare s) (hne : s ≠ "") :
    BeginsBare (s ++ t) := by
  rw [BeginsBare, String.toList_append, List.head?_append_of_ne_nil _ (by simpa using hne)]
  exact hs

theorem EndsBare.append {s t : String} (ht : EndsBare t) (hne : t ≠ "") :
    EndsBare (s ++ t) := by
  rw [EndsBare, String.toList_append, List.getLast?_append_of_ne_nil _ (by simpa using hne)]
  exact ht

/-! ### Taking slashes off -/

theorem dropWhile_replicate_append (n : Nat) {cs : List Char} (h : cs.head? ≠ some '/') :
    (List.replicate n '/' ++ cs).dropWhile (· == '/') = cs := by
  rw [List.dropWhile_append_of_pos fun c hc => by simp [List.eq_of_mem_replicate hc]]
  cases cs with
  | nil => rfl
  | cons c cs => exact List.dropWhile_cons_of_neg (by simpa using h)

theorem exists_replicate_append (cs : List Char) :
    ∃ n rest, cs = List.replicate n '/' ++ rest ∧ rest.head? ≠ some '/' := by
  induction cs with
  | nil => exact ⟨0, [], rfl, by simp⟩
  | cons c cs ih =>
      by_cases hc : c = '/'
      · obtain ⟨n, rest, rfl, hrest⟩ := ih
        exact ⟨n + 1, rest, by rw [hc, List.replicate_succ, List.cons_append], hrest⟩
      · exact ⟨0, c :: cs, rfl, by simpa using hc⟩

theorem exists_beginsBare (s : String) : ∃ n p, s = slashes n ++ p ∧ BeginsBare p := by
  obtain ⟨n, rest, hs, hrest⟩ := exists_replicate_append s.toList
  refine ⟨n, String.ofList rest, ?_, by rwa [BeginsBare, String.toList_ofList]⟩
  rw [← String.toList_inj, hs, String.toList_append, toList_slashes, String.toList_ofList]

theorem exists_endsBare (s : String) : ∃ b n, s = b ++ slashes n ∧ EndsBare b := by
  obtain ⟨n, rest, hs, hrest⟩ := exists_replicate_append s.toList.reverse
  refine ⟨String.ofList rest.reverse, n, ?_, ?_⟩
  · rw [← String.toList_inj, ← List.reverse_inj, hs, String.toList_append, toList_slashes,
      String.toList_ofList, List.reverse_append, List.reverse_reverse, List.reverse_replicate]
  · rwa [EndsBare, String.toList_ofList, List.getLast?_reverse]

/-- A text is slashes, or has a middle that neither begins nor ends with one. -/
theorem slashes_or_middle (s : String) :
    (∃ n, s = slashes n) ∨
      ∃ m middle n, s = slashes m ++ (middle ++ slashes n) ∧ middle ≠ "" ∧ BeginsBare middle ∧
        EndsBare middle := by
  obtain ⟨m, p, rfl, hp⟩ := exists_beginsBare s
  obtain ⟨middle, n, rfl, hends⟩ := exists_endsBare p
  by_cases hne : middle = ""
  · exact .inl ⟨m + n, by rw [hne, String.empty_append, slashes_append_slashes]⟩
  · refine .inr ⟨m, middle, n, rfl, hne, ?_, hends⟩
    rwa [BeginsBare, String.toList_append,
      List.head?_append_of_ne_nil _ (by simpa using hne)] at hp

/-! ### Joining -/

/-- The slashes at the seam become one, however many they are. -/
theorem joinUrl_append_slashes {b p : String} (hb : EndsBare b) (hp : BeginsBare p) (m n : Nat) :
    joinUrl (b ++ slashes m) (slashes n ++ p) = b ++ "/" ++ p := by
  have hb' : b.toList.reverse.head? ≠ some '/' := by rwa [List.head?_reverse]
  rw [← String.toList_inj]
  simp only [joinUrl, String.toList_ofList, String.toList_append, toList_slashes,
    List.reverse_append, List.reverse_replicate]
  rw [dropWhile_replicate_append n hp, dropWhile_replicate_append m hb', List.reverse_reverse,
    List.append_assoc]
  rfl

theorem joinUrl_more_slashes (base path : String) (m n : Nat) :
    joinUrl (base ++ slashes m) (slashes n ++ path) = joinUrl base path := by
  obtain ⟨b, k, rfl, hb⟩ := exists_endsBare base
  obtain ⟨l, p, rfl, hp⟩ := exists_beginsBare path
  rw [String.append_assoc, slashes_append_slashes, ← String.append_assoc, slashes_append_slashes,
    joinUrl_append_slashes hb hp, joinUrl_append_slashes hb hp]

/-- Two seams can be made in either order. -/
theorem joinUrl_assoc (a b c : String) :
    joinUrl (joinUrl a b) c = joinUrl a (joinUrl b c) := by
  obtain ⟨first, k, rfl, hfirst⟩ := exists_endsBare a
  obtain ⟨l, last, rfl, hlast⟩ := exists_beginsBare c
  rcases slashes_or_middle b with ⟨n, rfl⟩ | ⟨m, middle, n, rfl, hne, hbegins, hends⟩
  · -- what one seam leaves of the text in between is the slash that the other one takes
    have hleft := joinUrl_append_slashes hfirst beginsBare_empty k n
    have hright := joinUrl_append_slashes endsBare_empty hlast n l
    rw [String.append_empty, ← slashes_one] at hleft
    rw [String.empty_append, String.empty_append, ← slashes_one] at hright
    rw [hleft, hright, String.append_empty, joinUrl_append_slashes hfirst hlast,
      joinUrl_append_slashes hfirst hlast]
  · -- the text in between has characters of its own that neither seam can pass
    have hright := joinUrl_append_slashes (hends.append (s := slashes m) hne) hlast n l
    simp only [String.append_assoc] at hright
    calc joinUrl (joinUrl (first ++ slashes k) (slashes m ++ (middle ++ slashes n)))
          (slashes l ++ last)
        = joinUrl (first ++ "/" ++ middle ++ slashes n) (slashes l ++ last) := by
          rw [joinUrl_append_slashes hfirst (hbegins.append hne), ← String.append_assoc]
      _ = first ++ "/" ++ middle ++ "/" ++ last :=
          joinUrl_append_slashes (hends.append hne) hlast n l
      _ = first ++ "/" ++ (middle ++ ("/" ++ last)) := by simp only [String.append_assoc]
      _ = joinUrl (first ++ slashes k) (slashes m ++ (middle ++ ("/" ++ last))) :=
          (joinUrl_append_slashes hfirst (hbegins.append hne) k m).symm
      _ = joinUrl (first ++ slashes k)
          (joinUrl (slashes m ++ (middle ++ slashes n)) (slashes l ++ last)) := by rw [hright]

/-- The addresses of a server are joined from its base and a path: what is left of the base without
the slashes at its end, one slash, and what is left of the path without those in front. Slashes that
are added there make no difference. A server whose base is an address of another one has the
addresses that the other one has for the joined paths. -/
theorem Server.url_joins :
    (∀ (s : Server) (path : String), s.url path = joinUrl s.baseUrl path) ∧
    (∀ base path, ∃ b m n p, base = b ++ slashes m ∧ EndsBare b ∧ path = slashes n ++ p ∧
      BeginsBare p ∧ joinUrl base path = b ++ "/" ++ p) ∧
    (∀ base path m n, joinUrl (base ++ slashes m) (slashes n ++ path) = joinUrl base path) ∧
    (∀ a b c, joinUrl (joinUrl a b) c = joinUrl a (joinUrl b c)) ∧
    ∀ (s sub : Server) (dir path : String), sub.baseUrl = s.url dir →
      sub.url path = s.url (joinUrl dir path) := by
  refine ⟨fun _ _ => rfl, fun base path => ?_, joinUrl_more_slashes, joinUrl_assoc,
    fun s sub dir path hsub => ?_⟩
  · obtain ⟨b, m, rfl, hb⟩ := exists_endsBare base
    obtain ⟨n, p, rfl, hp⟩ := exists_beginsBare path
    exact ⟨b, m, n, p, rfl, hb, rfl, hp, joinUrl_append_slashes hb hp m n⟩
  · rw [url, url, hsub]
    exact joinUrl_assoc s.baseUrl dir path

end MarkupQuery
