import Cutscene.Proofs.Run.Handles
import Cutscene.Proofs.Script.Arguments
import Cutscene.Proofs.Troupe.Bound
import Cutscene.Proofs.Troupe.Singular

/-!
# Naming Those Who Were Added

Whoever an `addActor` brings on has the token for its name as it is written. All other commands read
the token: they take a question mark off its end and a player out of `farmer` and a number. So the
token means the newcomer if and only if it is read as the name that it is (`ActorRef.IsName`).
-/

namespace Cutscene

/-! ### Tokens that are names -/

lemma ActorId.named_of_parse {name n : String} (h : ActorId.parse name = .named n) : n = name := by
  rcases parse_cases name with hparse | ⟨k, -, hparse⟩ | hparse
  · cases hparse.symm.trans h
  · cases hparse.symm.trans h
  · exact named.inj (h.symm.trans hparse)

namespace ActorRef

/-- A token that is read as the name that it is. -/
def IsName (token : String) : Prop := parse token = ⟨.named token, false⟩

instance (token : String) : Decidable (IsName token) := inferInstanceAs (Decidable (_ = _))

/-- A token is a name unless a question mark is at its end, or in some letter case it is `farmer`,
alone or with a number behind it. -/
lemma isName_iff {token : String} : IsName token ↔
    token.toList.getLast? ≠ some '?' ∧ ∀ number : List Char,
      (Text.lower token).toList = playerWord.toList ++ number →
        number ≠ [] ∧ Numeral.nat32? (String.ofList number) = none := by
  have hid : ActorId.parse token = .named token ↔ ∀ number : List Char,
      (Text.lower token).toList = playerWord.toList ++ number →
        number ≠ [] ∧ Numeral.nat32? (String.ofList number) = none := by
    simp only [← Text.after?_eq_some]
    unfold ActorId.parse
    split
    · rename_i hafter
      exact iff_of_false nofun fun h => (h [] hafter).1 rfl
    · rename_i number hne hafter
      split
      · rename_i n hn
        refine iff_of_false nofun fun h => ?_
        rw [(h number hafter).2] at hn
        cases hn
      · rename_i hn
        refine iff_of_true rfl fun number' hafter' => ?_
        obtain rfl := Option.some.inj (hafter.symm.trans hafter')
        exact ⟨hne, hn⟩
    · rename_i hafter
      refine iff_of_true rfl fun number hafter' => ?_
      rw [hafter] at hafter'
      cases hafter'
  by_cases hmark : token.toList.getLast? = some '?'
  · refine iff_of_false (fun h => ?_) fun h => h.1 hmark
    rw [IsName, parse_eq, splitMark_of_mark hmark] at h
    exact Bool.noConfusion (ActorRef.mk.inj h).2
  · rw [IsName, parse_eq, splitMark_of_no_mark hmark, ← hid]
    simp [hmark]

/-- The mark is not part of the name. -/
lemma lower_named_eq_iff {token n : String} (h : (parse token).id = .named n) :
    Text.lower n = Text.lower token ↔ IsName token := by
  rw [IsName]
  rw [parse_eq] at h ⊢
  dsimp only at h
  have hn : n = (splitMark token).1 := ActorId.named_of_parse h
  constructor
  · intro hlower
    have hlen : n.toList.length = token.toList.length := by
      simpa [Text.lower] using congrArg (·.toList.length) hlower
    have hwhole := toList_eq_splitMark token
    have hmark : (splitMark token).2 = false := by
      cases hmark : (splitMark token).2 with
      | false => rfl
      | true =>
        rw [hmark, if_pos rfl, ← hn] at hwhole
        rw [hwhole] at hlen
        simp at hlen
    rw [hmark, if_neg Bool.false_ne_true, List.append_nil, ← hn] at hwhole
    obtain rfl : token = n := String.toList_inj.mp hwhole
    rw [hmark, ← h]
  · intro hplain
    rw [ActorId.named.inj ((ActorRef.mk.inj hplain).1.symm.trans h)]

end ActorRef

lemma ActorKind.isAvatar_of_ofToken? {token : String} {kind : ActorKind}
    (h : ofToken? token = some kind) : kind.isAvatar = false := by
  unfold ofToken? at h
  dsimp only at h
  split_ifs at h <;> cases h <;> rfl

variable {α σ : Type}

/-- A token means whoever has it for a name just if it is read as that name. -/
lemma ActorRef.whom_eq_iff (token : String) (localPlayer : Nat) :
    (ActorId.named token).whom localPlayer = (parse token).id.whom localPlayer ↔
      IsName token := by
  constructor
  · intro h
    cases hid : (parse token).id with
    | localPlayer => rw [hid] at h; cases h
    | player n => rw [hid] at h; cases h
    | named n =>
      rw [hid] at h
      exact (lower_named_eq_iff hid).mp (ActorId.named.inj h).symm
  · intro h
    rw [IsName] at h
    rw [h]

/-- An actor that is live and no avatar is found by the token that is his name. -/
lemma Cast.Singular.resolve?_name_iff {c : Cast α} (hc : c.Singular) {h : Handle} {a : Actor α}
    (hlive : c.get? h = some a) (ha : a.kind.isAvatar = false) :
    c.resolve? (ActorRef.parse a.name) = some h ↔ ActorRef.IsName a.name := by
  rw [Cast.resolve?, hc.find?_iff_of_live hlive, Actor.whom,
    Cast.identity_of_not_avatar ha, ActorRef.whom_eq_iff]

/-- So it is with a newcomer. -/
lemma Cast.Singular.exists_newcomer {c : Cast α} (hc : c.Singular) {a : Actor α} {name : String}
    (hname : a.name = name) (ha : a.kind.isAvatar = false) :
    ∃ h, (∀ k, (c.spawn a).2.get? k = if k = h then some a else c.get? k) ∧
      ((c.spawn a).2.resolve? (ActorRef.parse name) = some h ↔ ActorRef.IsName name) := by
  subst hname
  have hget := Cast.get?_spawn hc.toOrderly a
  exact ⟨_, hget, (hc.spawn a).resolve?_name_iff ((hget _).trans (if_pos rfl)) ha⟩

/-! ### Those who are added -/

/-- The tokens of an `addActor`, as they are read. -/
structure Args.Adds (a : Args) (kind : ActorKind) (name : String) (tile : Tile)
    (facing : Direction) : Prop where
  kind : a.parsed 1 "kind" .actorKind ActorKind.ofToken? = .ok kind
  name : a.get 2 "name" = .ok name
  tile : a.point 3 "tile" = .ok tile
  facing : a.direction 5 "facing" = .ok facing

lemma Args.Adds.isAvatar {a : Args} {kind : ActorKind} {name : String} {tile : Tile}
    {facing : Direction} (h : a.Adds kind name tile facing) : kind.isAvatar = false := by
  obtain ⟨token, -, hkind⟩ := parsed_eq_ok_iff.mp h.kind
  exact ActorKind.isAvatar_of_ofToken? hkind

variable [Scalar α] [Stage α σ] {s u : Scene α σ} {raw : String}

namespace Commands

omit [Stage α σ] in
/-- An `addActor` brings its actor on, or it is reported. -/
lemma addActor_cases (a : Args) (s : Scene α σ) : (∃ kind name tile facing,
    a.Adds kind name tile facing ∧ (addActor a s).scene =
      { s with cast := (s.cast.spawn (.place name kind tile facing s.settings.tileSize)).2 }.advance
        1) ∨
    (addActor a s).scene.reports ≠ s.reports := by
  unfold addActor Scene.reading
  dsimp only
  split
  · rename_i value hread
    obtain ⟨kind, hkind, hread⟩ := bind_eq_ok.mp hread
    obtain ⟨name, hname, hread⟩ := bind_eq_ok.mp hread
    obtain ⟨tile, htile, hread⟩ := bind_eq_ok.mp hread
    obtain ⟨facing, hfacing, hread⟩ := bind_eq_ok.mp hread
    rw [← Except.ok.inj hread]
    exact .inl ⟨kind, name, tile, facing, ⟨hkind, hname, htile, hfacing⟩, rfl⟩
  · exact .inr (by simp [Scene.done, Scene.passOver, Scene.note, Scene.report, Scene.reportAt,
      Scene.advance])

omit [Scalar α] [Stage α σ] in
/-- A `removeActor` takes off whom its token means, if it means anybody. -/
lemma cast_removeActor (token : String) (u : Scene α σ) :
    (removeActor ⟨["removeActor", token]⟩ u).scene.cast =
      ((u.cast.resolve? (ActorRef.parse token)).map u.cast.remove).getD u.cast := by
  have hread : (⟨["removeActor", token]⟩ : Args).get 1 "actor" = .ok token := rfl
  unfold removeActor Scene.withActor
  rw [hread]
  dsimp only [Scene.reading]
  cases hresolve : u.cast.resolve? (ActorRef.parse token) with
  | none =>
    dsimp only
    split <;> rfl
  | some h =>
    obtain ⟨x, hx⟩ := Option.isSome_iff_exists.mp (Cast.get?_isSome_of_resolve? hresolve)
    dsimp only
    rw [hx]
    rfl

omit [Scalar α] [Stage α σ] in
/-- Whom the token means goes off, and nobody else. -/
lemma get?_removeActor {token : String} {h : Handle}
    (hresolve : u.cast.resolve? (ActorRef.parse token) = some h) (k : Handle) :
    (removeActor ⟨["removeActor", token]⟩ u).scene.cast.get? k =
      if k = h then none else u.cast.get? k := by
  rw [cast_removeActor, hresolve]
  exact Cast.get?_remove u.cast h k

omit [Scalar α] [Stage α σ] in
lemma get?_removeActor_of_ne {token : String} {h : Handle}
    (hresolve : u.cast.resolve? (ActorRef.parse token) ≠ some h) :
    (removeActor ⟨["removeActor", token]⟩ u).scene.cast.get? h = u.cast.get? h := by
  rw [cast_removeActor]
  cases hfound : u.cast.resolve? (ActorRef.parse token) with
  | none => rfl
  | some k =>
    have hne : h ≠ k := fun heq => hresolve (heq ▸ hfound)
    exact (Cast.get?_remove u.cast k h).trans (if_neg hne)

end Commands

namespace Scene

omit [Scalar α] [Stage α σ] in
lemma withActor_of_resolve? {token : String} {h : Handle} {x : Actor α}
    (hresolve : u.cast.resolve? (ActorRef.parse token) = some h) (hx : u.cast.get? h = some x)
    (next : Handle → Actor α → Reply α σ) : u.withActor token next = next h x := by
  unfold withActor
  dsimp only
  rw [hresolve]
  dsimp only
  rw [hx]

/-- The round of an `addActor` that is not reported brings its actor on. -/
lemma round_adds (hw : s.AtWork) (hat : s.At raw) (hname : s.command.1 = "addActor")
    (hreports : (s.round Commands.table).1.reports = s.reports) :
    ∃ kind name tile facing, s.command.2.Adds kind name tile facing ∧
      (s.round Commands.table).1.cast =
        (s.cast.spawn (.place name kind tile facing s.settings.tileSize)).2 := by
  obtain ⟨phase, chain, heq⟩ := round_at hw hat
  have hrun := hat.runs Commands.addActor (by simp [Commands.builtIn]) hname
  rw [heq, hrun] at hreports ⊢
  rcases Commands.addActor_cases s.command.2 ({ s with chainRequested := false } : Scene α σ).underWay
    with ⟨kind, name, tile, facing, hadds, hscene⟩ | hreported
  · refine ⟨kind, name, tile, facing, hadds, ?_⟩
    rw [hscene]
    exact (Event.applyEdits_frame _).cast
  · exact absurd hreports hreported

end Scene

open Scene Commands

/-- **Who was added can be named.** In every run, after an `addActor` that was not reported, the
actor that it asked for is live at that tile and with that facing, and everybody else is as before.
The token of its name means this actor if and only if it is read as a name. Then every command that
looks for an actor by the token finds this one, and a `removeActor` with it takes off this one and
nobody else. In any other case such a `removeActor` leaves it on the stage. -/
theorem added_actor_can_be_named (p : Premiere α σ) (moves : List (HostMove α σ)) :
    ∀ s ∈ p.scene.rounds table moves, ∀ raw, s.At raw → s.command.1 = "addActor" →
      (s.round table).1.reports = s.reports →
      ∃ kind name tile facing h, s.command.2.Adds kind name tile facing ∧
        let c := (s.round table).1.cast
        let actor : Actor α := .place name kind tile facing s.settings.tileSize
        (actor.position = tileOrigin s.settings.tileSize tile ∧ actor.facing = facing) ∧
        (∀ k, c.get? k = if k = h then some actor else s.cast.get? k) ∧
        (c.resolve? (ActorRef.parse name) = some h ↔ ActorRef.IsName name) ∧
        ∀ u : Scene α σ, u.cast = c →
          (ActorRef.IsName name → (∀ next, u.withActor name next = next h actor) ∧
            ∀ k, (removeActor ⟨["removeActor", name]⟩ u).scene.cast.get? k =
              if k = h then none else c.get? k) ∧
          (¬ ActorRef.IsName name →
            (removeActor ⟨["removeActor", name]⟩ u).scene.cast.get? h = some actor) := by
  intro s hs raw hat hname hreports
  have hw := (attended_habit.kept.rounds ⟨p.atRest, p.attended⟩ moves s hs).1
  have hruled := ruled_of_mem_course Troupe.singular_rule ⟨.of_idle rfl rfl, .empty 0⟩
    (mem_course_of_mem_rounds moves s hs)
  have hsingular : s.cast.Singular := hruled.rule.2
  obtain ⟨kind, name, tile, facing, hadds, hcast⟩ := round_adds hw hat hname hreports
  have hactor : (.place name kind tile facing s.settings.tileSize : Actor α).name = name := rfl
  obtain ⟨h, hget, hmeans⟩ := hsingular.exists_newcomer hactor hadds.isAvatar
  rw [← hcast] at hget hmeans
  refine ⟨kind, name, tile, facing, h, hadds, ⟨rfl, rfl⟩, hget, hmeans, fun u hu => ?_⟩
  have hlive := (hget h).trans (if_pos rfl)
  rw [← hu] at hmeans hlive ⊢
  exact ⟨fun hname => ⟨withActor_of_resolve? (hmeans.mpr hname) hlive,
    get?_removeActor (hmeans.mpr hname)⟩,
    fun hname => (get?_removeActor_of_ne (mt hmeans.mp hname)).trans hlive⟩

/-- A dog is brought on, and `Dog` means it. -/
theorem dog_is_named :
    ∃ s ∈ (rehearsed ["addActor pet Dog 3 4 1", "pause 1000"]).scene.rounds table [.tick],
      s.At "addActor pet Dog 3 4 1" ∧ s.command.1 = "addActor" ∧
      (s.round table).1.reports = s.reports ∧ ActorRef.IsName "Dog" ∧
      ∃ h, (s.round table).1.cast.resolve? (ActorRef.parse "Dog") = some h ∧
        (s.round table).1.cast.get? h =
          some (.place "Dog" .pet ⟨3, 4⟩ .right s.settings.tileSize) ∧
        (removeActor ⟨["removeActor", "Dog"]⟩ (s.round table).1).scene.cast.get? h = none := by
  obtain ⟨l, hl⟩ : ∃ l, l = (rehearsed ["addActor pet Dog 3 4 1", "pause 1000"]).scene.rounds
      table [.tick] := ⟨_, rfl⟩
  have hrun : l.any (fun e => decide (e.working.get? e.pointer = some "addActor pet Dog 3 4 1") &&
      !e.settings.isComment "addActor pet Dog 3 4 1" &&
      decide ((e.round table).1.reports = e.reports)) = true := by
    rw [hl, table_eq_spelled]
    decide +kernel
  obtain ⟨s, hs, hall⟩ := List.any_eq_true.mp hrun
  simp only [Bool.and_eq_true, decide_eq_true_eq, Bool.not_eq_true'] at hall
  obtain ⟨⟨hget, hcomment⟩, hreports⟩ := hall
  have hat : s.At "addActor pet Dog 3 4 1" := ⟨hget, hcomment⟩
  have htokens : Script.tokens? "addActor pet Dog 3 4 1" =
      some ["addActor", "pet", "Dog", "3", "4", "1"] := by decide +kernel
  have hcommand := hat.command_eq.trans (commandOf_of_spelled htokens rfl)
  have hname : s.command.1 = "addActor" := by rw [hcommand]
  have hplain : ActorRef.IsName "Dog" := by decide +kernel
  obtain ⟨kind, name, tile, facing, h, hadds, -, hcast, hmeans, hfinds⟩ :=
    added_actor_can_be_named _ _ s (hl ▸ hs) _ hat hname hreports
  rw [hcommand] at hadds
  have hread : Args.Adds ⟨["addActor", "pet", "Dog", "3", "4", "1"]⟩ .pet "Dog" ⟨3, 4⟩ .right :=
    ⟨by decide +kernel, rfl, by decide +kernel, by decide +kernel⟩
  obtain rfl := Except.ok.inj (hread.kind.symm.trans hadds.kind)
  obtain rfl := Except.ok.inj (hread.name.symm.trans hadds.name)
  obtain rfl := Except.ok.inj (hread.tile.symm.trans hadds.tile)
  obtain rfl := Except.ok.inj (hread.facing.symm.trans hadds.facing)
  obtain ⟨-, hremoved⟩ := (hfinds _ rfl).1 hplain
  exact ⟨s, hl ▸ hs, hat, hname, hreports, hplain, h, hmeans.mpr hplain,
    (hcast h).trans (if_pos rfl), (hremoved h).trans (if_pos rfl)⟩

/-- It is not the case that the token with which an actor was added means that actor: a dog that is
added as `Dog?` has the mark in its name, and no other command has it. -/
theorem marked_dog_is_lost :
    ¬ ∀ (p : Premiere Float32 Rehearsal) (moves : List (HostMove Float32 Rehearsal)),
      ∀ s ∈ p.scene.rounds table moves, ∀ raw, s.At raw → s.command.1 = "addActor" →
        (s.round table).1.reports = s.reports → ∀ name, s.command.2.get? 2 = some name →
          ∃ h a, (s.round table).1.cast.resolve? (ActorRef.parse name) = some h ∧
            (s.round table).1.cast.get? h = some a ∧ a.name = name := by
  intro hclaim
  obtain ⟨l, hl⟩ : ∃ l, l = (rehearsed ["addActor pet Dog? 3 4 1", "pause 1000"]).scene.rounds
      table [.tick] := ⟨_, rfl⟩
  have hrun : l.any (fun e => decide (e.working.get? e.pointer = some "addActor pet Dog? 3 4 1") &&
      !e.settings.isComment "addActor pet Dog? 3 4 1" &&
      decide ((e.round table).1.reports = e.reports) &&
      decide ((e.round table).1.cast.resolve? (ActorRef.parse "Dog?") = none)) = true := by
    rw [hl, table_eq_spelled]
    decide +kernel
  obtain ⟨s, hs, hall⟩ := List.any_eq_true.mp hrun
  simp only [Bool.and_eq_true, decide_eq_true_eq, Bool.not_eq_true'] at hall
  obtain ⟨⟨⟨hget, hcomment⟩, hreports⟩, hnobody⟩ := hall
  have hat : s.At "addActor pet Dog? 3 4 1" := ⟨hget, hcomment⟩
  have htokens : Script.tokens? "addActor pet Dog? 3 4 1" =
      some ["addActor", "pet", "Dog?", "3", "4", "1"] := by decide +kernel
  have hcommand := hat.command_eq.trans (commandOf_of_spelled htokens rfl)
  obtain ⟨h, -, hmeans, -⟩ := hclaim _ _ s (hl ▸ hs) _ hat (by rw [hcommand]) hreports "Dog?"
    (by rw [hcommand]; rfl)
  rw [hnobody] at hmeans
  cases hmeans

end Cutscene
