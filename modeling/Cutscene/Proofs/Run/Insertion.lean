import Cutscene.Proofs.Run.Deferral

/-!
# Commands Put In

A command may move the pointer on and put commands in behind itself, in any order and as often as it
likes. The pointer goes on at once, by the list that the command found; the commands come in when it
has returned, each block directly behind it and so before those asked for earlier. What becomes of
the list and the pointer can be told from how far the pointer went in all and from the blocks
(`Scene.inserts_keep_every_command`): no command is lost, none comes twice, and the pointer keeps to
its command.
-/

namespace Cutscene

variable {α σ : Type}

/-! ### The list -/

namespace Working

/-- The list with blocks put in behind an index, the last of them first. -/
def withBlocks (w : Working) (index : Nat) (blocks : List (List String)) : Working :=
  ⟨w.commands.take (index + 1) ++ blocks.reverse.flatten ++ w.commands.drop (index + 1),
    w.version + blocks.length⟩

/-- Where a command stands after blocks were put in behind an index. -/
def shifted (index inserted pointer : Nat) : Nat :=
  if index + 1 < pointer then pointer + inserted else pointer

variable {w : Working} {index : Nat}

lemma withBlocks_nil (w : Working) (index : Nat) : w.withBlocks index [] = w := by
  rw [withBlocks, List.reverse_nil, List.flatten_nil, List.append_nil, List.take_append_drop]
  rfl

/-- A block that comes in first is pushed back by the others. -/
lemma apply_withBlocks (hi : index < w.size) (block : List String) (blocks : List (List String)) :
    (w.apply (.insertAfter index block)).withBlocks index blocks =
      w.withBlocks index (block :: blocks) := by
  have hfront : (w.commands.take (index + 1)).length = index + 1 :=
    List.length_take_of_le hi
  simp only [withBlocks, apply_commands, apply_version, edited, List.append_assoc, List.length_cons,
    List.reverse_cons, List.flatten_append, List.flatten_singleton, Working.mk.injEq]
  rw [List.take_left' hfront, List.drop_left' hfront]
  exact ⟨rfl, by omega⟩

lemma size_withBlocks (hi : index < w.size) (blocks : List (List String)) :
    (w.withBlocks index blocks).size = w.size + blocks.flatten.length := by
  have hsize : w.commands.length = w.size := rfl
  simp only [withBlocks, size, List.length_append, List.length_take, List.length_drop,
    List.length_flatten, List.map_reverse, List.sum_reverse]
  omega

end Working

namespace Event

/-- The edits of a command that only puts commands in. -/
lemma foldl_insertAfter {index : Nat} (blocks : List (List String)) {e : Event α}
    (hi : index < e.working.size) :
    ((blocks.map (Edit.insertAfter index)).foldl applyEdit e).working =
        e.working.withBlocks index blocks ∧
      ((blocks.map (Edit.insertAfter index)).foldl applyEdit e).pointer =
        Working.shifted index blocks.flatten.length e.pointer := by
  induction blocks generalizing e with
  | nil => exact ⟨(Working.withBlocks_nil _ _).symm, by simp [Working.shifted]⟩
  | cons block blocks ih =>
    have hworking := applyEdit_working e (.insertAfter index block)
    have hpointer : (e.applyEdit (.insertAfter index block)).pointer =
        Working.shifted index block.length e.pointer := by
      unfold applyEdit Working.shifted
      dsimp only
      split <;> rfl
    have hi' : index < (e.applyEdit (.insertAfter index block)).working.size := by
      rw [hworking, Working.size, Working.apply_commands, Working.length_edited_insertAfter]
      exact Nat.lt_add_right _ hi
    obtain ⟨hlist, hplace⟩ := ih hi'
    rw [List.map_cons, List.foldl_cons, hlist, hplace, hworking, hpointer]
    refine ⟨Working.apply_withBlocks hi _ _, ?_⟩
    unfold Working.shifted
    rw [List.flatten_cons, List.length_append]
    split_ifs <;> omega

/-- They keep the pointer in the list. -/
lemma applyEdits_insertAfter {index : Nat} {blocks : List (List String)} {e : Event α}
    (hedits : e.edits = blocks.map (Edit.insertAfter index)) (hi : index < e.working.size)
    (hp : e.pointer ≤ e.working.size) :
    e.applyEdits.working = e.working.withBlocks index blocks ∧
      e.applyEdits.pointer = Working.shifted index blocks.flatten.length e.pointer := by
  have hi' : index < ({ e with edits := [] } : Event α).working.size := hi
  obtain ⟨hlist, hplace⟩ := foldl_insertAfter blocks hi'
  rw [applyEdits, hedits]
  dsimp only
  rw [hlist, hplace, Working.size_withBlocks hi]
  refine ⟨rfl, Nat.min_eq_left ?_⟩
  dsimp only
  unfold Working.shifted
  split <;> omega

end Event

/-! ### What a command asks for -/

/-- A command moves the pointer on, or puts commands in behind itself. -/
inductive Request where
  | advance (n : Nat)
  | insert (commands : List String)

namespace Request

/-- How far the pointer goes in all. -/
def total : List Request → Nat
  | [] => 0
  | advance n :: l => n + total l
  | insert _ :: l => total l

/-- The blocks, as they were asked for. -/
def blocks : List Request → List (List String)
  | [] => []
  | advance _ :: l => blocks l
  | insert commands :: l => commands :: blocks l

end Request

namespace Scene

/-- Nothing has happened to the list, the pointer and the queued edits. -/
structure Aside (s t : Scene α σ) : Prop where
  working : t.working = s.working
  pointer : t.pointer = s.pointer
  edits : t.edits = s.edits
  dispatching : t.dispatching = s.dispatching

/-- A command makes its requests in their order, and between them whatever else it does. -/
inductive Asks : List Request → Scene α σ → Scene α σ → Prop
  | done (s : Scene α σ) : Asks [] s s
  | aside {l : List Request} {s t u : Scene α σ} (aside : s.Aside t) (later : Asks l t u) :
    Asks l s u
  | advance {l : List Request} {s u : Scene α σ} (n : Nat) (later : Asks l (s.advance n) u) :
    Asks (.advance n :: l) s u
  | insert {l : List Request} {s u : Scene α σ} (commands : List String)
    (later : Asks l (s.onEvent (·.insertAfterCurrent commands)) u) : Asks (.insert commands :: l) s u

variable {s t : Scene α σ} {index : Nat} {l : List Request}

/-- While the command is under way its blocks wait, and the pointer is held by the list as it is. -/
lemma Asks.spec (h : Asks l s t) (hbusy : s.dispatching = some index)
    (hp : s.pointer ≤ s.working.size) :
    t.working = s.working ∧ t.pointer = min (s.pointer + Request.total l) s.working.size ∧
      t.edits = s.edits ++ (Request.blocks l).map (Edit.insertAfter index) := by
  induction h with
  | done s => exact ⟨rfl, (Nat.min_eq_left hp).symm, (List.append_nil _).symm⟩
  | @aside l s t u haside _ ih =>
    have hp' : t.pointer ≤ t.working.size := by rwa [haside.pointer, haside.working]
    obtain ⟨hworking, hpointer, hedits⟩ := ih (haside.dispatching.trans hbusy) hp'
    exact ⟨hworking.trans haside.working, by rw [hpointer, haside.pointer, haside.working],
      by rw [hedits, haside.edits]⟩
  | @advance l s u n _ ih =>
    obtain ⟨hworking, hpointer, hedits⟩ := ih hbusy (Nat.min_le_right _ _)
    refine ⟨hworking, ?_, hedits⟩
    have hstep : (s.advance n).pointer = min (s.pointer + n) s.working.size := rfl
    have hsize : (s.advance n).working.size = s.working.size := rfl
    rw [hpointer, hstep, hsize, Request.total]
    omega
  | @insert l s u commands _ ih =>
    obtain ⟨hworking, hpointer, hedits⟩ := ih hbusy hp
    refine ⟨hworking, hpointer, ?_⟩
    have hqueued : (s.onEvent (·.insertAfterCurrent commands)).edits =
        s.edits ++ [.insertAfter index commands] := by
      rw [onEvent_toEvent, Event.insertAfterCurrent, Event.current, hbusy]
      rfl
    rw [hedits, hqueued, Request.blocks, List.map_cons, List.append_assoc, List.singleton_append]

variable [Stage α σ] {table : CommandTable (Handler α σ)} {raw : String}

lemma aside_call (s : Scene α σ) (c : Call α) : s.Aside (s.call c) := ⟨rfl, rfl, rfl, rfl⟩

/-- The command that a text calls makes these requests in the scene. -/
def Requests (s : Scene α σ) (table : CommandTable (Handler α σ)) (raw : String)
    (l : List Request) : Prop :=
  ∃ name args m, Script.tokens? raw = some (name :: args) ∧ table.resolve? name = some m ∧
    Asks l s.underWay (m.2 ⟨name :: args⟩ s.underWay).scene

/-- An event that is given up keeps its list and its pointer. -/
lemma abort_stays (s : Scene α σ) (index : Nat) (command : String) (fault : Fault) :
    (s.abort index command fault).working = s.working ∧
      (s.abort index command fault).pointer = s.pointer := by
  obtain ⟨u, hu, heq⟩ := clearAway_eq (s.reportAt index command .fatal fault)
    (some (.aborted index fault))
  rw [abort, heq]
  exact ⟨congrArg Stand.working hu.stand, congrArg Stand.pointer hu.stand⟩

/-- What a command that makes requests leaves of the list and the pointer, also if it gives up. -/
lemma runCommand_of_requests (h : s.Requests table raw l) (hrange : s.pointer < s.working.size)
    (hedits : s.edits = []) :
    (runCommand table s s.pointer raw).working =
        s.working.withBlocks s.pointer (Request.blocks l) ∧
      (runCommand table s s.pointer raw).pointer =
        Working.shifted s.pointer (Request.blocks l).flatten.length
          (min (s.pointer + Request.total l) s.working.size) := by
  obtain ⟨name, args, m, htokens, hresolve, hasks⟩ := h
  obtain ⟨hworking, hpointer, hqueued⟩ := hasks.spec rfl hrange.le
  set t := (m.2 ⟨name :: args⟩ s.underWay).scene with ht
  have hqueued' : t.edits = (Request.blocks l).map (Edit.insertAfter s.pointer) := by
    rw [hqueued]
    exact congrArg (· ++ _) hedits
  have hworking' : t.working = s.working := hworking
  have hpointer' : t.pointer = min (s.pointer + Request.total l) s.working.size := hpointer
  have hedited := Event.applyEdits_insertAfter hqueued' (by rwa [hworking'])
    (by rw [hworking', hpointer']; exact Nat.min_le_right _ _)
  rw [hworking', hpointer'] at hedited
  cases hfault : (m.2 ⟨name :: args⟩ s.underWay).fault with
  | none =>
    rw [runCommand_known htokens hresolve hfault]
    exact hedited
  | some fault =>
    obtain ⟨hlist, hplace⟩ := abort_stays t.edited s.pointer raw fault
    rw [runCommand_of_fault htokens hresolve hfault, hlist, hplace]
    exact hedited

/-- **Commands put in are neither lost nor repeated.** Let a command of any table, under the pointer
of any list and with no edit queued before it, move the pointer on and put blocks in behind itself,
as often as it likes and in any order. Then the list is what it was, with the blocks behind the
command, those asked for later first. A pointer that did not move is where it was; one that moved by
one, or moved from the last command, is on what was put in; any other is on the command, or the end,
that it had come to in the list as it was. Every command that moves the pointer by as much in all
and puts in the same blocks leaves the same, however these requests were mixed. -/
theorem inserts_keep_every_command {s : Scene α σ} {table : CommandTable (Handler α σ)}
    {raw : String} {l : List Request} (h : s.Requests table raw l)
    (hrange : s.pointer < s.working.size) (hedits : s.edits = []) :
    let t := runCommand table s s.pointer raw
    let n := Request.total l
    let inserted := (Request.blocks l).reverse.flatten
    t.working.commands = s.working.commands.take (s.pointer + 1) ++ inserted ++
        s.working.commands.drop (s.pointer + 1) ∧
      (n = 0 → t.pointer = s.pointer) ∧
      (1 ≤ n → n = 1 ∨ s.pointer + 1 = s.working.size → t.pointer = s.pointer + 1 ∧
        t.working.commands.drop t.pointer =
          inserted ++ s.working.commands.drop (s.pointer + 1)) ∧
      (1 < n → s.pointer + 1 < s.working.size →
        t.pointer = min (s.pointer + n) s.working.size + inserted.length ∧
        t.working.commands.drop t.pointer =
          s.working.commands.drop (min (s.pointer + n) s.working.size)) ∧
      ∀ table' raw' l', s.Requests table' raw' l' → Request.total l' = n →
        Request.blocks l' = Request.blocks l →
        (runCommand table' s s.pointer raw').working = t.working ∧
          (runCommand table' s s.pointer raw').pointer = t.pointer := by
  intro t n inserted
  obtain ⟨hworking, hpointer⟩ := runCommand_of_requests h hrange hedits
  have hlist : t.working.commands = s.working.commands.take (s.pointer + 1) ++
      (inserted ++ s.working.commands.drop (s.pointer + 1)) := by
    rw [← List.append_assoc]
    exact congrArg Working.commands hworking
  have hfront : (s.working.commands.take (s.pointer + 1)).length = s.pointer + 1 :=
    List.length_take_of_le hrange
  have hinserted : inserted.length = (Request.blocks l).flatten.length := by
    simp only [inserted, List.length_flatten, List.map_reverse, List.sum_reverse]
  replace hpointer : t.pointer = Working.shifted s.pointer inserted.length
      (min (s.pointer + n) s.working.size) := hinserted ▸ hpointer
  refine ⟨?_, fun hn => ?_, fun hn hnext => ?_, fun hn hmore => ?_, ?_⟩
  · rw [hlist, List.append_assoc]
  · rw [hpointer, Working.shifted, if_neg (by omega)]
    omega
  · have hplace : t.pointer = s.pointer + 1 := by
      rw [hpointer, Working.shifted, if_neg (by omega)]
      omega
    refine ⟨hplace, ?_⟩
    rw [hlist, hplace, List.drop_left' hfront]
  · have hplace : t.pointer = min (s.pointer + n) s.working.size + inserted.length := by
      rw [hpointer, Working.shifted, if_pos (by omega)]
    obtain ⟨k, hk⟩ : ∃ k, min (s.pointer + n) s.working.size = s.pointer + 1 + k :=
      Nat.exists_eq_add_of_le (by omega)
    have hbehind : s.pointer + 1 + k + inserted.length =
        (s.working.commands.take (s.pointer + 1)).length + (inserted.length + k) := by omega
    refine ⟨hplace, ?_⟩
    rw [hlist, hplace, hk, hbehind, List.drop_length_add_append, List.drop_length_add_append,
      List.drop_drop]
  · intro table' raw' l' h' hn hblocks
    obtain ⟨hworking', hpointer'⟩ := runCommand_of_requests h' hrange hedits
    rw [hworking', hpointer', hn, hblocks]
    exact ⟨hworking.symm, (hpointer.trans (by rw [hinserted])).symm⟩

/-- Puts a cue in, goes on by two, puts in two more in front of it, and goes on once more. -/
def reshuffle : Handler Float32 Rehearsal := fun _ s =>
  ((((s.onEvent (·.insertAfterCurrent ["playSound a"])).advance 2).call .closeMenus).onEvent
    (·.insertAfterCurrent ["playSound b", "playSound c"])).advance 1 |>.done

/-- The second of six commands puts in three and goes on by three, to the fifth as it was. -/
theorem reshuffle_keeps_every_command :
    let s : Scene Float32 Rehearsal := { (rehearsed ["a", "b"]).scene with
      working := ⟨["p", "reshuffle", "q", "r", "u", "v"], 7⟩, pointer := 1 }
    let t := runCommand (hosted [("reshuffle", reshuffle)]) s s.pointer "reshuffle"
    s.Requests (hosted [("reshuffle", reshuffle)]) "reshuffle"
      [.insert ["playSound a"], .advance 2, .insert ["playSound b", "playSound c"], .advance 1] ∧
    t.working.commands = ["p", "reshuffle", "playSound b", "playSound c", "playSound a", "q", "r",
      "u", "v"] ∧ t.pointer = 7 := by
  intro s t
  have htokens : Script.tokens? "reshuffle" = some ["reshuffle"] := by decide +kernel
  have hresolve : (hosted [("reshuffle", reshuffle)]).resolve? "reshuffle" =
      some ("reshuffle", reshuffle) :=
    resolve?_register_self (by rw [Commands.table_eq_spelled]; decide +kernel)
  have hasks : s.Requests (hosted [("reshuffle", reshuffle)]) "reshuffle"
      [.insert ["playSound a"], .advance 2, .insert ["playSound b", "playSound c"], .advance 1] :=
    ⟨_, _, _, htokens, hresolve, .insert _ (.advance _ (.aside (aside_call _ .closeMenus)
      (.insert _ (.advance _ (.done _)))))⟩
  obtain ⟨hlist, -, -, hmoved, -⟩ := inserts_keep_every_command hasks (by decide) rfl
  exact ⟨hasks, hlist, (hmoved (by decide) (by decide)).1⟩

end Scene

end Cutscene
