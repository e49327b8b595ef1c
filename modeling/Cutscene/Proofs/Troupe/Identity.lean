import Cutscene.Proofs.Tempo.Basic
import Cutscene.Proofs.Troupe.Drive

/-!
# One Actor for Each Identity

A script means an avatar by its number and everybody else by a name, whose letter case does not
matter. However actors come on and go off, no two live ones answer to the same identity: whoever
comes on under an identity that is live takes the place of the actor who has it, handle and all.
A handle that was given out once is never given to anybody else.
-/

namespace Cutscene

variable {α : Type}

/-- The actor is whom an identity means where the player is the local one. -/
def Actor.Answers (localPlayer : Nat) (a : Actor α) : ActorId → Prop
  | .localPlayer => a.kind = .avatar localPlayer
  | .player n => a.kind = .avatar n
  | .named name => a.kind.isAvatar = false ∧ Text.alike a.name name

/-- Whom an identity means, spelled in one way. -/
def ActorId.whom (localPlayer : Nat) : ActorId → ActorId
  | .localPlayer => .player localPlayer
  | .player n => .player n
  | .named name => .named (Text.lower name)

/-- Whom an actor is taken for. -/
def Actor.whom (localPlayer : Nat) (a : Actor α) : ActorId :=
  (Cast.identity a).whom localPlayer

lemma Cast.identity_of_avatar {a : Actor α} {n : Nat} (h : a.kind = .avatar n) :
    Cast.identity a = .player n := by
  rw [Cast.identity, h]

lemma Cast.identity_of_not_avatar {a : Actor α} (h : a.kind.isAvatar = false) :
    Cast.identity a = .named a.name := by
  unfold Cast.identity
  split
  · rename_i n hn
    simp [hn, ActorKind.isAvatar] at h
  · rfl

/-- An actor answers to an identity if both mean the same. -/
lemma Actor.answers_iff {localPlayer : Nat} {a : Actor α} {id : ActorId} :
    a.Answers localPlayer id ↔ a.whom localPlayer = id.whom localPlayer := by
  rw [Actor.whom]
  cases hkind : a.kind.isAvatar with
  | true =>
    obtain ⟨n, hn⟩ : ∃ n, a.kind = .avatar n := by
      cases h : a.kind <;> simp_all [ActorKind.isAvatar]
    rw [Cast.identity_of_avatar hn]
    cases id <;> simp [Actor.Answers, ActorId.whom, hn, ActorKind.isAvatar]
  | false =>
    have hno : ∀ n, a.kind ≠ .avatar n := by
      rintro n hn
      simp [hn, ActorKind.isAvatar] at hkind
    rw [Cast.identity_of_not_avatar hkind]
    cases id <;> simp [Actor.Answers, ActorId.whom, hno, hkind, Text.alike_iff]

/-- Somebody comes on, or whoever is under a handle goes off. -/
inductive CastChange (α : Type) where
  | comesOn (a : Actor α)
  | goesOff (h : Handle)

namespace Cast

/-- The cast after one change. -/
def change (c : Cast α) : CastChange α → Cast α
  | .comesOn a => (c.spawn a).2
  | .goesOff h => c.remove h

/-- The cast after a sequence of changes. -/
def after (c : Cast α) (history : List (CastChange α)) : Cast α := history.foldl change c

/-- The handles that were given out on the way, one for each that came on. -/
def given (c : Cast α) : List (CastChange α) → List Handle
  | [] => []
  | .comesOn a :: rest => (c.spawn a).1 :: (c.spawn a).2.given rest
  | .goesOff h :: rest => (c.remove h).given rest

/-! ### Whom an identity means -/

section Find

variable {c : Cast α} {h : Handle} {id : ActorId} {localPlayer : Nat}

/-- Who answers to an identity of an actor answers to all of them. -/
lemma answers_identity_iff {a b : Actor α} (ha : a.Answers localPlayer id) :
    b.Answers localPlayer (identity a) ↔ b.Answers localPlayer id := by
  rw [Actor.answers_iff, Actor.answers_iff, ← Actor.answers_iff.mp ha]
  rfl

lemma mem_of_handleOf? {test : Actor α → Bool} (hh : c.handleOf? test = some h) :
    ∃ a, (h, a) ∈ c.members ∧ test a := by
  obtain ⟨m, hm, rfl⟩ := Option.map_eq_some_iff.mp hh
  exact ⟨m.2, List.mem_of_find?_eq_some hm, by simpa using List.find?_some hm⟩

lemma handleOf?_eq_none_iff {test : Actor α → Bool} :
    c.handleOf? test = none ↔ ∀ m ∈ c.members, ¬ test m.2 := by
  simp [handleOf?]

lemma find?_localPlayer :
    c.find? .localPlayer = c.handleOf? fun a => a.kind == .avatar c.localPlayer := rfl

lemma find?_player (n : Nat) : c.find? (.player n) = c.handleOf? fun a => a.kind == .avatar n :=
  rfl

/-- Whoever is found is live and answers. -/
lemma answers_of_find? (hh : c.find? id = some h) :
    ∃ a, (h, a) ∈ c.members ∧ a.Answers c.localPlayer id := by
  cases id with
  | localPlayer =>
    obtain ⟨a, ha, htest⟩ := mem_of_handleOf? (find?_localPlayer ▸ hh)
    exact ⟨a, ha, beq_iff_eq.mp htest⟩
  | player n =>
    obtain ⟨a, ha, htest⟩ := mem_of_handleOf? (find?_player n ▸ hh)
    exact ⟨a, ha, beq_iff_eq.mp htest⟩
  | named name =>
    rcases Option.or_eq_some_iff.mp hh with hexact | ⟨-, hany⟩
    · obtain ⟨a, ha, htest⟩ := mem_of_handleOf? hexact
      simp only [Bool.and_eq_true, Bool.not_eq_true', beq_iff_eq] at htest
      exact ⟨a, ha, htest.1, htest.2 ▸ Text.alike_self a.name⟩
    · obtain ⟨a, ha, htest⟩ := mem_of_handleOf? hany
      simp only [Bool.and_eq_true, Bool.not_eq_true'] at htest
      exact ⟨a, ha, htest⟩

/-- Nobody is found only where nobody answers. -/
lemma find?_eq_none_iff : c.find? id = none ↔ ∀ m ∈ c.members, ¬ m.2.Answers c.localPlayer id := by
  constructor
  · intro hnone m hm
    cases id with
    | localPlayer =>
      rw [find?_localPlayer] at hnone
      simpa [Actor.Answers] using handleOf?_eq_none_iff.mp hnone m hm
    | player n =>
      rw [find?_player] at hnone
      simpa [Actor.Answers] using handleOf?_eq_none_iff.mp hnone m hm
    | named name =>
      -- The second look, which does not mind letter case, sees all that the first one sees.
      have hany := handleOf?_eq_none_iff.mp (Option.or_eq_none_iff.mp hnone).2 m hm
      simpa [Actor.Answers] using hany
  · intro hnobody
    cases hfind : c.find? id with
    | none => rfl
    | some h =>
      obtain ⟨a, ha, hans⟩ := answers_of_find? hfind
      exact absurd hans (hnobody _ ha)

end Find

/-! ### What changes keep -/

/-- Every handle is given out once, and no two live actors answer to one identity. -/
structure Singular (c : Cast α) : Prop extends c.Orderly where
  single : ∀ m ∈ c.members, ∀ n ∈ c.members, ∀ id,
    m.2.Answers c.localPlayer id → n.2.Answers c.localPlayer id → m.1 = n.1

variable {c : Cast α}

lemma Singular.empty (localPlayer : Nat) : (empty localPlayer : Cast α).Singular :=
  ⟨⟨List.nodup_nil, fun _ hm => absurd hm List.not_mem_nil⟩, fun _ hm => absurd hm List.not_mem_nil⟩

/-- The live actor under a handle is the one that the cast lists there. -/
lemma Orderly.get?_eq_some_iff (hc : c.Orderly) {h : Handle} {a : Actor α} :
    c.get? h = some a ↔ (h, a) ∈ c.members := by
  refine ⟨mem_members_of_get?, fun hmem => ?_⟩
  obtain ⟨b, hb⟩ := Option.isSome_iff_exists.mp
    (get?_isSome_iff.mpr (List.mem_map_of_mem (f := Prod.fst) hmem))
  exact hb.trans (congrArg some (hc.eq_of_get? hmem hb).symm)

/-- An identity finds the one live actor that answers to it. -/
lemma Singular.find?_eq_some_iff (hc : c.Singular) {id : ActorId} {h : Handle} :
    c.find? id = some h ↔ ∃ a, c.get? h = some a ∧ a.Answers c.localPlayer id := by
  constructor
  · intro hh
    obtain ⟨a, ha, hans⟩ := answers_of_find? hh
    exact ⟨a, hc.get?_eq_some_iff.mpr ha, hans⟩
  · rintro ⟨a, ha, hans⟩
    have hmem := hc.get?_eq_some_iff.mp ha
    cases hfind : c.find? id with
    | none => exact absurd hans (find?_eq_none_iff.mp hfind _ hmem)
    | some k =>
      obtain ⟨b, hb, hbans⟩ := answers_of_find? hfind
      exact congrArg some (hc.single _ hb _ hmem id hbans hans)

/-- So it finds a live actor if it means whom he is taken for. -/
lemma Singular.find?_iff_of_live (hc : c.Singular) {id : ActorId} {h : Handle} {a : Actor α}
    (ha : c.get? h = some a) :
    c.find? id = some h ↔ a.whom c.localPlayer = id.whom c.localPlayer := by
  rw [hc.find?_eq_some_iff, ha, ← Actor.answers_iff]
  simp

lemma Singular.remove (hc : c.Singular) (h : Handle) : (c.remove h).Singular where
  toOrderly := hc.toOrderly.remove h
  single := fun m hm n hn =>
    hc.single m (List.mem_filter.mp hm).1 n (List.mem_filter.mp hn).1

lemma spawn_of_live {h : Handle} {a : Actor α} (hlive : c.find? (identity a) = some h) :
    c.spawn a = (h, c.modify h fun _ => a) := by
  rw [spawn, hlive]

lemma spawn_of_new {a : Actor α} (hnew : c.find? (identity a) = none) :
    c.spawn a = (⟨c.next⟩,
      { c with members := c.members ++ [(⟨c.next⟩, a)], next := c.next + 1 }) := by
  rw [spawn, hnew]

@[simp] lemma localPlayer_spawn (c : Cast α) (a : Actor α) :
    (c.spawn a).2.localPlayer = c.localPlayer := by
  unfold spawn
  split <;> rfl

/-- The newcomer answers to nothing that others answer to: if it takes somebody's place, the others
did not answer to that one's identities either. -/
lemma Singular.spawn (hc : c.Singular) (a : Actor α) : (c.spawn a).2.Singular where
  toOrderly := hc.toOrderly.spawn a
  single := by
    rw [localPlayer_spawn]
    cases hfind : c.find? (identity a) with
    | none =>
      have hnobody := find?_eq_none_iff.mp hfind
      have hapart : ∀ m ∈ c.members, ∀ id, m.2.Answers c.localPlayer id →
          ¬ a.Answers c.localPlayer id := fun m hm id hmid haid =>
        hnobody m hm ((answers_identity_iff haid).mpr hmid)
      rw [spawn_of_new hfind]
      intro m hm n hn id hmid hnid
      simp only [List.mem_append, List.mem_singleton] at hm hn
      rcases hm with hm | rfl <;> rcases hn with hn | rfl
      · exact hc.single m hm n hn id hmid hnid
      · exact absurd hnid (hapart m hm id hmid)
      · exact absurd hmid (hapart n hn id hnid)
      · rfl
    | some h =>
      obtain ⟨b, hb, hans⟩ := answers_of_find? hfind
      have hapart : ∀ m ∈ c.members, m.1 ≠ h → ∀ id, m.2.Answers c.localPlayer id →
          ¬ a.Answers c.localPlayer id := fun m hm hne id hmid haid =>
        hne (hc.single m hm _ hb _ ((answers_identity_iff haid).mpr hmid) hans)
      rw [spawn_of_live hfind]
      intro m hm n hn id hmid hnid
      rcases mem_modify hm with ⟨_, -, rfl⟩ | ⟨hm, hmh⟩ <;>
        rcases mem_modify hn with ⟨_, -, rfl⟩ | ⟨hn, hnh⟩
      · rfl
      · exact absurd hmid (hapart n hn hnh id hnid)
      · exact absurd hnid (hapart m hm hmh id hmid)
      · exact hc.single m hm n hn id hmid hnid

/-- Under the handle that is given out stands whoever has come on, and nobody else has moved. -/
lemma get?_spawn (hc : c.Orderly) (a : Actor α) (k : Handle) :
    (c.spawn a).2.get? k = if k = (c.spawn a).1 then some a else c.get? k := by
  cases hfind : c.find? (identity a) with
  | none =>
    rw [spawn_of_new hfind]
    by_cases hk : k = ⟨c.next⟩
    · have hnone : c.members.lookup k = none := by
        rw [List.lookup_eq_none_iff]
        intro m hm
        have hlt := hc.given m hm
        rw [bne_iff_ne]
        rintro rfl
        simp [hk] at hlt
      simp [get?, List.lookup_append, hk ▸ hnone, hk]
    · have hne : (k == ⟨c.next⟩) = false := by simpa using hk
      simp [get?, List.lookup_append, List.lookup_cons, hne, hk]
  | some h =>
    rw [spawn_of_live hfind, get?_modify]
    split
    · rename_i hk
      obtain ⟨b, hb, -⟩ := answers_of_find? hfind
      rw [hk, hc.get?_eq_some_iff.mpr hb, Option.map_some]
    · rfl

/-! ### What a history of changes leaves -/

@[simp] lemma localPlayer_after (c : Cast α) (history : List (CastChange α)) :
    (c.after history).localPlayer = c.localPlayer := by
  induction history generalizing c with
  | nil => rfl
  | cons move rest ih =>
    rw [after, List.foldl_cons, ← after, ih]
    cases move with
    | comesOn a => exact localPlayer_spawn c a
    | goesOff h => rfl

lemma Singular.after (hc : c.Singular) (history : List (CastChange α)) :
    (c.after history).Singular := by
  induction history generalizing c with
  | nil => exact hc
  | cons move rest ih =>
    cases move with
    | comesOn a => exact ih (hc.spawn a)
    | goesOff h => exact ih (hc.remove h)

lemma number_spawn (hc : c.Orderly) (a : Actor α) :
    (c.spawn a).1.number < (c.spawn a).2.next ∧ c.next ≤ (c.spawn a).2.next ∧
      (c.spawn a).2.next ≤ c.next + 1 := by
  cases hfind : c.find? (identity a) with
  | none => simp [spawn_of_new hfind]
  | some h =>
    obtain ⟨b, hb, -⟩ := answers_of_find? hfind
    rw [spawn_of_live hfind]
    exact ⟨hc.given _ hb, Nat.le_refl _, Nat.le_succ _⟩

/-- All handles that were given out lie below the next one, and there are no fewer of them than it
has advanced. -/
lemma given_lt_next (hc : c.Orderly) (history : List (CastChange α)) :
    c.next ≤ (c.after history).next ∧ (∀ h ∈ c.given history, h.number < (c.after history).next) ∧
      (c.after history).next ≤ c.next + (c.given history).length := by
  induction history generalizing c with
  | nil => exact ⟨Nat.le_refl _, fun _ hh => absurd hh List.not_mem_nil, Nat.le_refl _⟩
  | cons move rest ih =>
    cases move with
    | comesOn a =>
      obtain ⟨hnumber, hlow, hhigh⟩ := number_spawn hc a
      obtain ⟨hnext, hgiven, hcount⟩ := ih (hc.spawn a)
      refine ⟨hlow.trans hnext, fun h hh => ?_, ?_⟩
      · rcases List.mem_cons.mp hh with rfl | hh
        · exact hnumber.trans_le hnext
        · exact hgiven h hh
      · have hlen : (c.given (.comesOn a :: rest)).length = ((c.spawn a).2.given rest).length + 1 :=
          rfl
        rw [hlen]
        calc ((c.spawn a).2.after rest).next
            ≤ (c.spawn a).2.next + ((c.spawn a).2.given rest).length := hcount
          _ ≤ c.next + 1 + ((c.spawn a).2.given rest).length := Nat.add_le_add_right hhigh _
          _ = c.next + (((c.spawn a).2.given rest).length + 1) := by omega
    | goesOff h => exact ih (hc.remove h)

/-- **Each identity means one actor.** After any history of actors who come on and go off, no two
live avatars have the same number and no two other live actors names that differ in letter case at
most; an identity finds the one actor who answers to it, if there is one. Whoever comes on next
stands under the handle that is given out, and all others stay as they are: the handle is that of
the live actor with the same identity, or else one that was never given out before, and its number
is at most the count of those given out. -/
theorem identity_means_one_actor (localPlayer : Nat) (history : List (CastChange α)) :
    let c := (empty localPlayer : Cast α).after history
    (c.members.map Prod.fst).Nodup ∧
    (∀ m ∈ c.members, ∀ n ∈ c.members, m.1 ≠ n.1 →
      (∀ number, m.2.kind = .avatar number → n.2.kind ≠ .avatar number) ∧
        (m.2.kind.isAvatar = false → n.2.kind.isAvatar = false →
          Text.lower m.2.name ≠ Text.lower n.2.name)) ∧
    (∀ id, ∀ m ∈ c.members, ∀ n ∈ c.members,
      m.2.Answers localPlayer id → n.2.Answers localPlayer id → m = n) ∧
    (∀ id h, c.find? id = some h ↔ ∃ a, c.get? h = some a ∧ a.Answers localPlayer id) ∧
    ∀ a,
      (∀ k, (c.spawn a).2.get? k = if k = (c.spawn a).1 then some a else c.get? k) ∧
      (∀ h b, c.get? h = some b → b.Answers localPlayer (identity a) → (c.spawn a).1 = h) ∧
      ((∀ h b, c.get? h = some b → ¬ b.Answers localPlayer (identity a)) →
        (c.spawn a).1 ∉ (empty localPlayer : Cast α).given history ∧
          (c.spawn a).1.number ≤ ((empty localPlayer : Cast α).given history).length) := by
  intro c
  have hempty := Singular.empty (α := α) localPlayer
  have hc : c.Singular := hempty.after history
  have hplayer : c.localPlayer = localPlayer := localPlayer_after _ history
  have hsingle := hplayer ▸ hc.single
  have hget := fun {h a} => hc.toOrderly.get?_eq_some_iff (h := h) (a := a)
  have hfound : ∀ id h, c.find? id = some h ↔
      ∃ a, c.get? h = some a ∧ a.Answers localPlayer id := fun id h => by
    rw [hc.find?_eq_some_iff, hplayer]
  refine ⟨hc.nodup, fun m hm n hn hne => ⟨fun number hmk hnk => ?_, fun hmk hnk hname => ?_⟩,
    fun id m hm n hn hmid hnid => ?_, hfound, fun a => ⟨get?_spawn hc.toOrderly a, ?_, ?_⟩⟩
  · exact hne (hsingle m hm n hn (.player number) hmk hnk)
  · exact hne (hsingle m hm n hn (.named n.2.name) ⟨hmk, Text.alike_iff.mpr hname⟩
      ⟨hnk, Text.alike_self _⟩)
  · have hfst := hsingle m hm n hn id hmid hnid
    exact Prod.ext hfst (hc.toOrderly.eq_of_get? hm (by rw [hfst]; exact hget.mpr hn))
  · intro h b hb hans
    rw [spawn_of_live ((hfound _ h).mpr ⟨b, hb, hans⟩)]
  · intro hnobody
    have hfind : c.find? (identity a) = none := by
      rw [Option.eq_none_iff_forall_ne_some]
      rintro h hh
      obtain ⟨b, hb, hans⟩ := (hfound _ h).mp hh
      exact hnobody h b hb hans
    obtain ⟨-, hlt, hcount⟩ := given_lt_next hempty.toOrderly history
    rw [spawn_of_new hfind]
    refine ⟨fun hmem => Nat.lt_irrefl _ (hlt _ hmem), ?_⟩
    exact hcount.trans (Nat.zero_add _).le

end Cast

end Cutscene
