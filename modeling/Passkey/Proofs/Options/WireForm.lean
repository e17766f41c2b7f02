/-
Passkey/Proofs/Options/WireForm.lean

Options are read back from what is written of them.

The written object starts with the interpreted members and ends with those
that pass.  No name occurs twice in it, because the members that pass do not
have an interpreted name; so every member is found again under its name, and
the relation between members and options holds of the text that was written.

Main result: options that were read, and whose numbers are integers, come back
from their own text, so that writing them once more changes nothing
(`parse_wire`).
-/
import Passkey.Proofs.Options.Acceptance

namespace Passkey

open Json

/-! ### Descriptors -/

namespace Descriptor

theorem fits_toValue (d : Descriptor) (depth : Nat) : d.toValue.Fits (depth + 2) := by
  refine .obj (List.forall_mem_cons.mpr ⟨.str _, List.forall_mem_cons.mpr ⟨.str _, ?_⟩⟩)
  split
  · exact nofun
  · exact List.forall_mem_singleton.mpr (Value.fits_ofTexts d.transports depth)

/-- A descriptor is read from what is written of it. -/
theorem readFrom_toValue (d : Descriptor) : ReadFrom d.toValue.normal d := by
  obtain ⟨kind, bytes, texts⟩ := d
  rcases texts with - | ⟨t, ts⟩
  · let ms : Members := [("type", .str kind), ("id", .ofBytes bytes)]
    have hms : (ms.map (·.1)).Nodup := (by decide : ["type", "id"].Nodup)
    have hget (name : String) := get?_ordered_normalMembers hms name
    exact .members (hget "id") (Value.spells_ofBytes bytes) (.inr (hget "type"))
      (.inl ⟨hget "transports", rfl⟩)
  · let ms : Members :=
      [("type", .str kind), ("id", .ofBytes bytes), ("transports", .ofTexts (t :: ts))]
    have hms : (ms.map (·.1)).Nodup := (by decide : ["type", "id", "transports"].Nodup)
    have hget (name : String) := get?_ordered_normalMembers hms name
    have htexts := hget "transports"
    refine .members (hget "id") (Value.spells_ofBytes bytes) (.inr (hget "type")) (.inr ?_)
    exact htexts.trans (congrArg some (normal_ofTexts (t :: ts)))

end Descriptor

/-! ### Members behind the interpreted ones -/

section Written

variable {names : List String} {ms front extra : Members}

theorem Passes.get?_eq_none (h : Passes names ms extra) {name : String} (hname : name ∈ names) :
    extra.get? name = none := by
  rw [Members.get?_eq_none_iff]
  rintro ⟨n, v⟩ hm rfl
  exact ((h.mem_iff n v).mp hm).2 hname

/-- The names in front are interpreted ones, each of them once. -/
structure Leads (names : List String) (front : Members) : Prop where
  subset : ∀ m ∈ front, m.1 ∈ names
  nodup : (front.map (·.1)).Nodup

theorem leads_of_map_fst (names ns : List String) (h : front.map (·.1) = ns)
    (hsub : ∀ n ∈ ns, n ∈ names) (hnodup : ns.Nodup) : Leads names front :=
  ⟨fun m hm => hsub m.1 (h ▸ List.mem_map_of_mem hm), h ▸ hnodup⟩

theorem Leads.nodup_append (hfront : Leads names front) (h : Passes names ms extra) :
    ((front ++ extra).map (·.1)).Nodup := by
  rw [List.map_append, List.nodup_append]
  refine ⟨hfront.nodup, h.ordered.map_nodup, ?_⟩
  intro a ha b hb hab
  obtain ⟨m, hm, rfl⟩ := List.mem_map.mp ha
  obtain ⟨⟨n, v⟩, hk, rfl⟩ := List.mem_map.mp hb
  have hn : m.1 = n := hab
  exact ((h.mem_iff n v).mp hk).2 (hn ▸ hfront.subset m hm)

/-- An interpreted member is found again. -/
theorem Leads.get?_written (hfront : Leads names front) (h : Passes names ms extra)
    {name : String} (hname : name ∈ names) :
    (Members.ordered (normalMembers (front ++ extra))).get? name
      = (front.get? name).map Value.normal := by
  rw [get?_ordered_normalMembers (hfront.nodup_append h), Members.get?_append,
    h.get?_eq_none hname, Option.or_none]

/-- **The members that pass, pass again.** -/
theorem Passes.written (h : Passes names ms extra) (hfront : Leads names front)
    (hnormal : ∀ m ∈ extra, m.2.normal = m.2) :
    Passes names (Members.ordered (normalMembers (front ++ extra))) extra := by
  refine ⟨h.ordered, fun name v => ?_⟩
  have hget : (Members.ordered (normalMembers (front ++ extra))).get? name
      = ((front.get? name).or (extra.get? name)).map Value.normal := by
    rw [get?_ordered_normalMembers (hfront.nodup_append h), Members.get?_append]
  rw [(Members.ordered_ordered _).mem_iff, hget]
  constructor
  · intro hm
    have hname := ((h.mem_iff name v).mp hm).2
    have hnone : front.get? name = none := by
      rw [Members.get?_eq_none_iff]
      rintro k hk rfl
      exact hname (hfront.subset k hk)
    refine ⟨?_, hname⟩
    rw [hnone, Option.none_or, h.ordered.mem_iff.mp hm, Option.map_some, hnormal _ hm]
  · rintro ⟨hv, hname⟩
    have hnone : front.get? name = none := by
      rw [Members.get?_eq_none_iff]
      rintro k hk rfl
      exact hname (hfront.subset k hk)
    rw [hnone, Option.none_or] at hv
    obtain ⟨w, hw, rfl⟩ := Option.map_eq_some_iff.mp hv
    have hm := Members.mem_of_get? hw
    rwa [hnormal _ hm]

/-- Members that pass are tidy where the object was. -/
theorem Passes.tidy {depth : Nat} (h : Passes names ms extra)
    (hms : (Value.obj ms).Tidy (depth + 1)) : ∀ m ∈ extra, m.2.Tidy depth := by
  rintro ⟨n, v⟩ hm
  exact hms.of_mem ((h.mem_iff n v).mp hm).1

end Written

/-! ### Accounts -/

theorem User.leads (u : User) : Leads ["id"] [("id", .ofBytes u.id)] :=
  leads_of_map_fst ["id"] ["id"] rfl (fun _ h => h) (by decide)

/-- An account is read from what is written of it. -/
theorem User.ReadFrom.written {us : Members} {u : User} (h : u.ReadFrom us)
    (hnormal : ∀ m ∈ u.extra, m.2.normal = m.2) :
    ∃ us', u.toValue.normal = .obj us' ∧ u.ReadFrom us' :=
  ⟨_, rfl, ⟨_, u.leads.get?_written h.extra List.mem_cons_self, Value.spells_ofBytes u.id⟩,
    h.extra.written u.leads hnormal⟩

/-! ### Options -/

theorem Mode.challenge_mem (m : Mode) : "challenge" ∈ m.interpreted := by
  cases m <;> decide

theorem Mode.listName_mem (m : Mode) : m.listName ∈ m.interpreted := by
  cases m <;> decide

namespace Options

/-- The interpreted members, as they are written. -/
def front : Options → Members
  | registration o => ("challenge", .ofBytes o.challenge) :: ("user", o.user.toValue) ::
      Descriptor.listMember "excludeCredentials" o.exclude
  | authentication o => ("challenge", .ofBytes o.challenge) ::
      Descriptor.listMember "allowCredentials" o.allow

variable {ms : Members} {o : Options}

theorem toValue_eq (o : Options) : o.toValue = .obj (o.front ++ o.extra) := by
  cases o <;> rfl

theorem leads_front (o : Options) : Leads o.mode.interpreted o.front := by
  rcases o with ⟨challenge, user, - | ⟨d, ds⟩, extra⟩ | ⟨challenge, - | ⟨d, ds⟩, extra⟩
  · exact leads_of_map_fst Mode.registration.interpreted
      ["challenge", "user"] rfl (by decide) (by decide)
  · exact leads_of_map_fst Mode.registration.interpreted
      ["challenge", "user", "excludeCredentials"] rfl (by decide) (by decide)
  · exact leads_of_map_fst Mode.authentication.interpreted
      ["challenge"] rfl (by decide) (by decide)
  · exact leads_of_map_fst Mode.authentication.interpreted
      ["challenge", "allowCredentials"] rfl (by decide) (by decide)

theorem get?_front_challenge (o : Options) :
    o.front.get? "challenge" = some (.ofBytes o.challenge) := by
  cases o <;> rfl

theorem get?_front_user {u : User} (hu : u ∈ o.user?) :
    o.front.get? "user" = some u.toValue := by
  cases o with
  | registration c =>
    cases hu
    rfl
  | authentication r => cases hu

/-- The list is found again, or it is missing because it was empty. -/
theorem listedIn_front (o : Options) :
    Descriptor.ListedIn ((o.front.get? o.mode.listName).map Value.normal) o.credentials := by
  have items (ds : List Descriptor) : Descriptor.ListedIn
      ((some (Value.arr (ds.map Descriptor.toValue))).map Value.normal) ds := by
    rw [Option.map_some, Value.normal, normalItems_eq, List.map_map]
    refine .items (List.forall₂_map_left_iff.mpr (List.forall₂_same.mpr ?_))
    exact fun d _ => d.readFrom_toValue
  rcases o with ⟨challenge, user, - | ⟨d, ds⟩, extra⟩ | ⟨challenge, - | ⟨d, ds⟩, extra⟩
  · exact .missing
  · exact items (d :: ds)
  · exact .missing
  · exact items (d :: ds)

/-- **What is written of options says the same options.** -/
theorem ReadFrom.written (h : o.ReadFrom ms) (hextra : ∀ m ∈ o.extra, m.2.normal = m.2)
    (huser : ∀ u ∈ o.user?, ∀ m ∈ u.extra, m.2.normal = m.2) :
    ∃ ms', o.toValue.normal = .obj ms' ∧ o.ReadFrom ms' := by
  have hget {name : String} (hname : name ∈ o.mode.interpreted) :=
    o.leads_front.get?_written h.extra hname
  refine ⟨Members.ordered (normalMembers (o.front ++ o.extra)), by rw [toValue_eq]; rfl, ?_⟩
  refine ⟨⟨.ofBytes o.challenge, ?_, Value.spells_ofBytes _⟩, ?_, ?_,
    h.extra.written o.leads_front hextra⟩
  · rw [hget o.mode.challenge_mem, get?_front_challenge]
    rfl
  · intro u hu
    have hname : "user" ∈ o.mode.interpreted := by
      cases o with
      | registration c => exact List.mem_cons_of_mem _ List.mem_cons_self
      | authentication r => cases hu
    obtain ⟨us, -, hus⟩ := h.user u hu
    obtain ⟨us', hus', hread⟩ := hus.written (huser u hu)
    refine ⟨us', ?_, hread⟩
    rw [hget hname, get?_front_user hu, Option.map_some, hus']
  · rw [hget o.mode.listName_mem]
    exact o.listedIn_front

/-! ### The text -/

/-- Every number among the members that pass is an integer of a machine word. -/
def Integral (o : Options) : Prop :=
  (∀ m ∈ o.extra, m.2.Integral) ∧ ∀ u ∈ o.user?, ∀ m ∈ u.extra, m.2.Integral

section Text

variable {mode : Mode} {text : String} {depth : Nat}

theorem fits_listMember (name : String) (ds : List Descriptor) (depth : Nat) :
    ∀ m ∈ Descriptor.listMember name ds, m.2.Fits (depth + 3) := by
  rw [Descriptor.listMember]
  split
  · exact nofun
  · refine List.forall_mem_singleton.mpr (.arr ?_)
    intro v hv
    obtain ⟨d, -, rfl⟩ := List.mem_map.mp hv
    exact d.fits_toValue depth

/-- **Options that were read are nested no more deeply when they are written.** -/
theorem ReadFrom.fits (h : o.ReadFrom ms) (hms : (Value.obj ms).Tidy (depth + 4))
    (hint : o.Integral) : o.toValue.Fits (depth + 4) := by
  rw [toValue_eq]
  refine .obj (List.forall_mem_append.mpr ⟨?_, ?_⟩)
  · rcases o with c | r
    · refine List.forall_mem_cons.mpr ⟨.str _, List.forall_mem_cons.mpr ⟨?_, ?_⟩⟩
      · obtain ⟨us, hus, hread⟩ := h.user c.user rfl
        have htidy := hread.extra.tidy (hms.of_get? hus)
        refine .obj (List.forall_mem_cons.mpr ⟨.str _, ?_⟩)
        intro m hm
        exact (htidy m hm).fits (hint.2 c.user rfl m hm)
      · exact fits_listMember _ c.exclude depth
    · exact List.forall_mem_cons.mpr ⟨.str _, fits_listMember _ r.allow depth⟩
  · intro m hm
    exact (h.extra.tidy hms m hm).fits (hint.1 m hm)

theorem ReadFrom.normal_extra (h : o.ReadFrom ms) (hms : (Value.obj ms).Tidy (depth + 1)) :
    ∀ m ∈ o.extra, m.2.normal = m.2 :=
  fun m hm => (h.extra.tidy hms m hm).normal_eq

theorem ReadFrom.normal_user (h : o.ReadFrom ms) (hms : (Value.obj ms).Tidy (depth + 2)) :
    ∀ u ∈ o.user?, ∀ m ∈ u.extra, m.2.normal = m.2 := by
  intro u hu m hm
  obtain ⟨us, hus, hread⟩ := h.user u hu
  exact (hread.extra.tidy (hms.of_get? hus) m hm).normal_eq

/-- An object is no wrapper if none of the members that pass could be one. -/
theorem ReadFrom.unwrap_eq (h : o.ReadFrom ms) (hwrap : o.extra.get? "publicKey" = none) :
    unwrap (.obj ms) = .obj ms := by
  have hnone : ms.get? "publicKey" = none := by
    rw [Members.get?_eq_none_iff]
    rintro ⟨n, v⟩ hm rfl
    have hname : "publicKey" ∉ o.mode.interpreted := by
      cases o.mode <;> decide
    exact Members.get?_eq_none_iff.mp hwrap _ ((h.extra.mem_iff _ v).mpr ⟨hm, hname⟩) rfl
  show (Members.get? ms "publicKey").getD _ = _
  rw [hnone]
  rfl

/-- **Options come back from their own text.**  They were read from some text,
their numbers are integers, and none of the members that pass could be taken
for a wrapper; then reading what is written of them gives the same options,
and writing those gives the same text. -/
theorem parse_wire (h : parse mode text = .ok o) (hint : o.Integral)
    (hwrap : o.extra.get? "publicKey" = none) :
    parse mode o.wire = .ok o ∧ ∀ o', parse mode o.wire = .ok o' → o'.wire = o.wire := by
  obtain ⟨v, hv, hread⟩ := parse_eq_ok_iff.mp h
  have htidy := tidy_unwrap (Value.tidy_of_parse hv)
  obtain ⟨hmode, ms, hms, hread⟩ := (ofValue_eq_ok_iff htidy).mp hread
  rw [hms] at htidy
  have htidy : (Value.obj ms).Tidy (123 + 4) := htidy
  have hparse : Value.parse o.wire = .ok o.toValue.normal := parse_text (hread.fits htidy hint)
  obtain ⟨ms', hms', hread'⟩ :=
    hread.written (hread.normal_extra htidy) (hread.normal_user htidy)
  have hunwrap : unwrap o.toValue.normal = .obj ms' := by
    rw [hms']
    exact hread'.unwrap_eq hwrap
  have hsame : parse mode o.wire = .ok o := by
    rw [parse_eq_ok_iff_of_parse hparse,
      ofValue_eq_ok_iff (tidy_unwrap (Value.tidy_of_parse hparse))]
    exact ⟨hmode, ms', hunwrap, hread'⟩
  refine ⟨hsame, fun o' ho' => ?_⟩
  rw [hsame] at ho'
  cases ho'
  rfl

/-- A padded challenge and a null list come back in the form that is written. -/
theorem parse_wire_timeout :
    parse .authentication "\x7b\"challenge\":\"AQ\",\"timeout\":5\x7d"
      = .ok (.authentication ⟨[1], [], [("timeout", .num (.int 5))]⟩) := by
  let v : Value :=
    .obj [("allowCredentials", .null), ("challenge", .str "AQ=="), ("timeout", .num (.int 5))]
  have htidy : v.Tidy maxDepth := by
    refine .obj (by decide) (List.forall_mem_cons.mpr ⟨.null, ?_⟩)
    refine List.forall_mem_cons.mpr ⟨.str _, ?_⟩
    exact List.forall_mem_singleton.mpr (.num _)
  have hfive : (Value.num (.int 5)).Integral := .int ⟨by decide, by decide⟩
  have hint : v.Integral := by
    refine .obj (List.forall_mem_cons.mpr ⟨.null, List.forall_mem_cons.mpr ⟨.str _, ?_⟩⟩)
    exact List.forall_mem_singleton.mpr hfive
  have hread : parse .authentication v.text
      = .ok (.authentication ⟨[1], [], [("timeout", .num (.int 5))]⟩) :=
    (parse_eq_ok_iff_of_parse (htidy.parse_text hint)).mpr rfl
  exact (parse_wire hread ⟨List.forall_mem_singleton.mpr hfive, nofun⟩ rfl).1

end Text

end Options

end Passkey
