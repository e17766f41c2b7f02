/-
Passkey/Proofs/Browser/Hearing.lean

How an event is heard on its way.

An event passes places, none of them twice (`nodup_route`), and at each place
the listeners there hear it one after the other.  What matters of a handler is
often just which number it counts for: the ceremony that it starts a run of, or
the ceremony whose monitor it feeds.  If the effects of single handlers add up
along these numbers, so does the effect of the whole event:

    handle      T (count k).toList
    tell        T (the numbers of the listeners)
    dispatch    T (the numbers of the listeners at all places, in order)

(`AddsUp.dispatch`).
-/
import Passkey.Proofs.Browser.Quiet

namespace Passkey.Browser

/-! ### The way of an event -/

namespace Forest

variable {f : Forest} {n : Nat} {es : List Element}

/-- The way from an element to the outside begins with the element, and passes elements of the
forest against the order of the page. -/
theorem path?_eq_some (h : f.path? n = some es) :
    es.reverse.Sublist f.elements ∧ ∃ e rest, es = e :: rest ∧ e.number = n := by
  induction f generalizing es with
  | empty => cases h
  | tree e children rest ih₁ ih₂ =>
    rw [path?] at h
    split at h
    · next hn =>
      cases h
      exact ⟨(List.nil_sublist _).cons_cons e, e, [], rfl, hn⟩
    · rcases Option.or_eq_some_iff.mp h with h | ⟨-, h⟩
      · obtain ⟨es', hes', rfl⟩ := Option.map_eq_some_iff.mp h
        obtain ⟨hsub, e', rest', rfl, hn⟩ := ih₁ hes'
        refine ⟨?_, e', rest' ++ [e], rfl, hn⟩
        rw [List.reverse_append]
        exact (hsub.trans (List.sublist_append_left _ _)).cons_cons e
      · obtain ⟨hsub, hfirst⟩ := ih₂ h
        exact ⟨(hsub.trans (List.sublist_append_right _ _)).cons e, hfirst⟩

theorem exists_of_path? (h : f.path? n = some es) : ∃ e ∈ f.elements, e.number = n := by
  obtain ⟨hsub, e, rest, rfl, hn⟩ := path?_eq_some h
  exact ⟨e, hsub.subset (List.mem_reverse.mpr List.mem_cons_self), hn⟩

theorem isSome_path? (h : n ∈ f.numbers) : (f.path? n).isSome = true := by
  induction f with
  | empty => cases h
  | tree e children rest ih₁ ih₂ =>
    rw [path?]
    split
    · rfl
    · next hne =>
      rw [numbers, elements, List.map_cons, List.map_append] at h
      rw [Option.isSome_or, Option.isSome_map, Bool.or_eq_true]
      exact (List.mem_append.mp (List.mem_of_ne_of_mem (Ne.symm hne) h)).imp ih₁ ih₂

end Forest

section Route

variable {d : Document} {n : Nat} {type : String}

theorem nodup_path (hd : d.WellNumbered) (n : Nat) : ((d.path n).1.map (·.number)).Nodup := by
  have hparts : (d.tree.numbers ++ d.detached.numbers).Nodup := List.map_append ▸ hd.nodup
  -- the way is a part of a forest in reverse order, and no number is given twice
  have hway {f : Forest} {es : List Element} (hf : f.numbers.Nodup) (h : f.path? n = some es) :
      (es.map (·.number)).Nodup := by
    obtain ⟨hsub, -⟩ := Forest.path?_eq_some h
    rw [← List.nodup_reverse, ← List.map_reverse]
    exact hf.sublist (hsub.map _)
  rw [Document.path]
  split
  · next es hes => exact hway (List.nodup_append.mp hparts).1 hes
  · rcases hes : d.detached.path? n with - | es
    · exact .nil
    · exact hway (List.nodup_append.mp hparts).2.1 hes

/-- **An event passes no place twice.** -/
theorem nodup_route (hd : d.WellNumbered) (type : String) (place : Place) :
    (route d type place).Nodup := by
  cases place with
  | document => exact List.nodup_singleton _
  | element n =>
    -- elements by their numbers, and the document is no element
    have hinjective : Function.Injective Place.element := fun m m' h => by injection h
    have helements := (nodup_path hd n).map hinjective
    rw [List.map_map] at helements
    rw [route]
    split
    · exact List.nodup_singleton _
    · refine List.nodup_append.mpr ⟨helements, ?_, ?_⟩
      · split
        · exact List.nodup_singleton _
        · exact .nil
      · rintro place hplace _ hdocument rfl
        obtain ⟨e, -, rfl⟩ := List.mem_map.mp hplace
        split at hdocument
        · cases List.mem_singleton.mp hdocument
        · cases hdocument

/-- An event passes the element at which it arrives, in the page or out of it. -/
theorem mem_route {e : Element} (he : e ∈ d.elements) :
    .element e.number ∈ route d type (.element e.number) := by
  have hfirst {f : Forest} {es : List Element} (hes : f.path? e.number = some es) :
      Place.element e.number ∈ es.map fun e => .element e.number := by
    obtain ⟨-, e', outer, rfl, hn⟩ := Forest.path?_eq_some hes
    exact List.mem_map.mpr ⟨e', List.mem_cons_self, congrArg Place.element hn⟩
  rw [route]
  split
  · exact List.mem_singleton_self _
  · rw [Document.path]
    cases htree : d.tree.path? e.number with
    | some es => exact List.mem_append_left _ (hfirst htree)
    | none =>
      have hout : e ∈ d.detached.elements := by
        refine (List.mem_append.mp he).resolve_left fun hin => ?_
        have hsome := Forest.isSome_path? (List.mem_map_of_mem hin)
        rw [htree] at hsome
        cases hsome
      obtain ⟨es, hes⟩ := Option.isSome_iff_exists.mp
        (Forest.isSome_path? (List.mem_map_of_mem hout))
      dsimp only
      rw [hes]
      exact List.mem_append_left _ (hfirst hes)

/-- Only an element has a way to the outside. -/
theorem path_eq_or_exists (d : Document) (n : Nat) :
    d.path n = ([], false) ∨ ∃ e ∈ d.elements, e.number = n := by
  rw [Document.path]
  cases htree : d.tree.path? n with
  | some es =>
    obtain ⟨e, he, hn⟩ := Forest.exists_of_path? htree
    exact .inr ⟨e, List.mem_append_left _ he, hn⟩
  | none =>
    cases hdetached : d.detached.path? n with
    | some es =>
      obtain ⟨e, he, hn⟩ := Forest.exists_of_path? hdetached
      exact .inr ⟨e, List.mem_append_right _ he, hn⟩
    | none => exact .inl rfl

/-- An event that passes anything arrives at an element. -/
theorem exists_of_mem_route {place : Place} (htype : type ≠ "focus")
    (h : place ∈ route d type (.element n)) : ∃ e ∈ d.elements, e.number = n := by
  refine (path_eq_or_exists d n).resolve_left fun hpath => ?_
  rw [route, if_neg htype, hpath] at h
  cases h

/-- What one place adds on the way of an event. -/
theorem flatMap_route {α : Type} (hd : d.WellNumbered) (type : String) (place there : Place)
    (as : List α) :
    ((route d type place).flatMap fun here => if here = there then as else [])
      = if there ∈ route d type place then as else [] := by
  have hnodup := nodup_route hd type place
  generalize route d type place = places at hnodup ⊢
  induction places with
  | nil => rfl
  | cons here rest ih =>
    obtain ⟨hnot, hrest⟩ := List.nodup_cons.mp hnodup
    rw [List.flatMap_cons, ih hrest]
    by_cases h : here = there
    · -- it does not come again
      subst h
      rw [if_pos rfl, if_neg hnot, if_pos List.mem_cons_self, List.append_nil]
    · rw [if_neg h, List.nil_append]
      exact if_congr (by rw [List.mem_cons, or_iff_right (Ne.symm h)]) rfl rfl

end Route

/-! ### Effects that add up -/

/-- What the listeners at a place that hear events of a type count for. -/
def heard (b : Browser) (count : Handler → Option Nat) (type : String) (place : Place) :
    List Nat :=
  (b.listeners.filter (·.hears place type)).filterMap fun l => count l.handler

/-- Only the listeners matter whose handlers can count. -/
theorem heard_eq {count : Handler → Option Nat} (counts : Handler → Bool)
    (h : ∀ k : Handler, counts k = false → count k = none) (b : Browser) (type : String)
    (place : Place) :
    b.heard count type place
      = ((b.listeners.filter fun l => counts l.handler).filter (·.hears place type)).filterMap
          fun l => count l.handler := by
  rw [heard, List.filter_comm]
  generalize b.listeners.filter _ = ls
  rw [List.filterMap_filter]
  refine List.filterMap_congr fun l _ => ?_
  rcases hl : counts l.handler with - | -
  · exact h _ hl
  · rfl

/-- Effects of handlers on an event and the browser that add up along the numbers that the
handlers count for.  None of them moves a listener that counts. -/
structure AddsUp (count : Handler → Option Nat) (type : String)
    (T : List Nat → Event × Browser → Event × Browser → Prop) : Prop where
  sound : ∀ {cs x y}, T cs x y → y.2.Sound
  heard : ∀ {cs x y}, T cs x y → y.2.heard count type = x.2.heard count type
  quiet : ∀ (ev : Event) {b b' : Browser}, b.Quiet b' → T [] (ev, b) (ev, b')
  trans : ∀ {cs cs' x y z}, T cs x y → T cs' y z → T (cs ++ cs') x z
  handle : ∀ (ev : Event) {b : Browser} {k : Handler}, b.Sound → type ∈ k.events →
    T (count k).toList (ev, b) ((handle ev k).run b)

section AddsUp

variable {count : Handler → Option Nat} {type : String}
  {T : List Nat → Event × Browser → Event × Browser → Prop} {b : Browser}

/-- Listeners add up one after the other. -/
theorem AddsUp.tell (hT : AddsUp count type T) {ls : List Listener}
    (hl : ∀ l ∈ ls, type ∈ l.handler.events) (ev : Event) (h : b.Sound) :
    T (ls.filterMap fun l => count l.handler) (ev, b) ((tell ls ev).run b) := by
  induction ls generalizing ev b with
  | nil => exact hT.quiet ev (.refl h)
  | cons l ls ih =>
    have hfirst := hT.handle ev h (hl l List.mem_cons_self)
    have hrest := ih (fun k hk => hl k (List.mem_cons_of_mem l hk))
      ((Browser.handle ev l.handler).run b).1 (hT.sound hfirst)
    have hcons : (l :: ls).filterMap (fun l => count l.handler)
        = (count l.handler).toList ++ ls.filterMap fun l => count l.handler := by
      rw [List.filterMap_cons]
      cases count l.handler <;> rfl
    rw [hcons, Browser.tell, StateT.run_bind]
    exact hT.trans hfirst hrest

/-- **Places add up one after the other**: what happens at one leaves the listeners that count
alone, so the rest of the way is as it was. -/
theorem AddsUp.bubble (hT : AddsUp count type T) (places : List Place) (ev : Event)
    (h : b.Sound) :
    T (places.flatMap (b.heard count type)) (ev, b) ((bubble type places ev).run b) := by
  induction places generalizing ev b with
  | nil => exact hT.quiet ev (.refl h)
  | cons place places ih =>
    have hhearing : ∀ l ∈ b.listeners.filter (·.hears place type), type ∈ l.handler.events :=
      fun _ => h.mem_events_of_hearing
    have htaken := quietly_takeOnce place type b h
    have hhere := hT.trans (hT.quiet ev htaken) (hT.tell hhearing ev htaken.sound)
    rw [List.flatMap_cons]
    refine hT.trans hhere ?_
    -- the listeners that count are where they were
    rw [← hT.heard hhere]
    exact ih _ (hT.sound hhere)

/-- **An event adds up along its way.** -/
theorem AddsUp.dispatch (hT : AddsUp count type T) (place : Place) (key : Option String)
    (detail : ScriptValue) (h : b.Sound) :
    T ((route b.document type place).flatMap (b.heard count type))
      (⟨place, key, detail, false⟩, b) ((dispatch place type key detail).run b) :=
  hT.bubble _ _ h

end AddsUp

end Passkey.Browser
