import Cutscene.Proofs.Troupe.Table
import Mathlib.Algebra.Order.BigOperators.Group.List
import Mathlib.Algebra.Order.Ring.Canonical
import Mathlib.Algebra.Order.Ring.Nat

/-!
# Scripts That Splice Run Out

A list of commands may grow while it runs. A quick question puts the commands of a branch behind
itself, lost items ask to be shown, and a line is looked up and takes the place of the command that
asks for it. But the commands of a branch are cut from the text of the question, and what the stage
supplies stands in a `speak`, which only passes. So a text can be given a weight that pays for all
that may come in its place (`Scene.Queues.paid`), and each round that gets on spends some of it
(`Scene.round_toll`).
-/

namespace Cutscene

/-! ### The lengths of pieces -/

namespace Text

/-- The characters of some texts, taken together. -/
def lengths (ps : List (List Char)) : Nat := (ps.map List.length).sum

@[simp] lemma lengths_nil : lengths [] = 0 := rfl

@[simp] lemma lengths_cons (p : List Char) (ps : List (List Char)) :
    lengths (p :: ps) = p.length + lengths ps := by
  simp [lengths]

@[simp] lemma lengths_grow (c : Char) (ps : List (List Char)) :
    lengths (grow c ps) = lengths ps + 1 := by
  cases ps with
  | nil => rfl
  | cons p ps =>
    simp only [grow, lengths_cons, List.length_cons]
    omega

lemma lengths_cutChars (mark : Char) (cs : List Char) :
    lengths (cutChars mark cs) ≤ cs.length := by
  induction cs with
  | nil => exact Nat.le_refl _
  | cons c rest ih =>
    rw [cutChars]
    split
    · simpa using Nat.le_succ_of_le ih
    · simpa using ih

lemma lengths_cutWords (mark : List Char) (k : Nat) (cs : List Char) :
    lengths (cutWords mark k cs) ≤ cs.length := by
  induction cs generalizing k with
  | nil => cases k <;> exact Nat.le_refl _
  | cons c rest ih =>
    cases k with
    | succ k => exact Nat.le_succ_of_le (ih k)
    | zero =>
      rw [cutWords]
      split
      · simpa using Nat.le_succ_of_le (ih (mark.length - 1))
      · simpa using ih 0

lemma length_le_lengths {p : List Char} {ps : List (List Char)} (h : p ∈ ps) :
    p.length ≤ lengths ps :=
  List.le_sum_of_mem (List.mem_map_of_mem h)

lemma length_trimFront (cs : List Char) : (trimFront cs).length ≤ cs.length :=
  (List.dropWhile_sublist _).length_le

lemma length_trimChars (cs : List Char) : (trimChars cs).length ≤ cs.length := by
  have hback : (trimChars cs).length ≤ (trimFront cs).length := by
    simpa [trimChars, trimBack] using length_trimFront (trimFront cs).reverse
  exact hback.trans (length_trimFront cs)

/-- What follows a mark is shorter than the text that the mark stands in. -/
lemma length_of_halves? {mark : Char} {s front back : String}
    (h : halves? mark s = some (front, back)) : back.length < s.length := by
  have hlen : (s.toList.dropWhile (· ≠ mark)).length ≤ s.toList.length :=
    (List.dropWhile_sublist _).length_le
  unfold halves? at h
  dsimp only at h
  split at h
  · cases h
  · rename_i c rest hdrop
    obtain ⟨-, rfl⟩ := Prod.mk.inj (Option.some.inj h)
    rw [hdrop, String.length_toList] at hlen
    rw [String.length_ofList]
    exact Nat.lt_of_succ_le hlen

end Text

namespace Commands

open Text

/-- The text of a branch is a proper part of the text of its question. -/
lemma length_of_branch {raw branch : String} (h : branch ∈ (splitQuickQuestion raw).2) :
    branch.length < raw.length := by
  have hfront : (String.ofList (trimFront raw.toList)).length ≤ raw.length := by
    rw [String.length_ofList, ← String.length_toList]
    exact length_trimFront raw.toList
  unfold splitQuickQuestion at h
  generalize String.ofList (trimFront raw.toList) = text at h hfront
  dsimp only at h
  rcases hhalves : halves? ' ' text with _ | ⟨name, body⟩
  · -- A question without a body has a single piece, which is its prompt.
    rw [hhalves] at h
    cases h
  · rw [hhalves] at h
    have hbody := length_of_halves? hhalves
    dsimp only [piecesBetween] at h
    rcases hpieces : cutWords "(break)".toList 0 body.toList with _ | ⟨prompt, branches⟩
    · rw [hpieces] at h
      cases h
    · rw [hpieces] at h
      obtain ⟨cs, hcs, rfl⟩ := List.mem_map.mp h
      have hsum := lengths_cutWords "(break)".toList 0 body.toList
      rw [hpieces, lengths_cons] at hsum
      have hcs := length_le_lengths hcs
      simp only [String.length_toList, String.length_ofList] at hsum ⊢
      omega

/-! ### The weight of a text -/

section Weight

variable {α σ : Type}

/-- What a text may cost until it is passed. A quick question pays for its branches by their length,
and a command that queues a single text pays for that. -/
def weight (table : CommandTable (Handler α σ)) (raw : String) : Nat :=
  match (table.commandOf raw).1 with
  | "quickQuestion" => 2 * raw.length
  | "speakFromState" | "loseItems" => 2
  | _ => 1

/-- What the commands of a list may cost until the last of them is passed. -/
def budget (table : CommandTable (Handler α σ)) (commands : List String) : Nat :=
  (commands.map (weight table)).sum

variable (table : CommandTable (Handler α σ))

@[simp] lemma budget_nil : budget table [] = 0 := rfl

@[simp] lemma budget_cons (raw : String) (rest : List String) :
    budget table (raw :: rest) = weight table raw + budget table rest := by
  simp [budget]

@[simp] lemma budget_append (l l' : List String) :
    budget table (l ++ l') = budget table l + budget table l' := by
  simp [budget]

lemma budget_drop_le (n : Nat) (commands : List String) :
    budget table (commands.drop n) ≤ budget table commands := by
  have hsplit := budget_append table (commands.take n) (commands.drop n)
  rw [List.take_append_drop] at hsplit
  omega

variable {table}

/-- No text is empty that calls a command. -/
lemma ne_empty_of_commandOf {raw name : String} (h : (table.commandOf raw).1 = name)
    (hname : name ≠ "") : raw ≠ "" := by
  rintro rfl
  exact hname h.symm

lemma weight_pos (raw : String) : 0 < weight table raw := by
  unfold weight
  split
  · rename_i hname
    have hne : raw ≠ "" := ne_empty_of_commandOf hname (by decide)
    have hlen : raw.length ≠ 0 := by rwa [Ne, String.length_eq_zero_iff]
    omega
  all_goals omega

lemma weight_le {raw : String} (h : raw ≠ "") : weight table raw ≤ 2 * raw.length := by
  have hlen : raw.length ≠ 0 := by rwa [Ne, String.length_eq_zero_iff]
  unfold weight
  split <;> omega

variable (table) in
/-- The parts of a text cost no more than its length allows. -/
lemma budget_partsBetween (mark : Char) (text : String) :
    budget table (partsBetween mark text) ≤ 2 * text.length := by
  have hparts : ∀ l : List (List Char),
      budget table (((l.map String.ofList).map trim).filter (· ≠ "")) ≤ 2 * lengths l := by
    intro l
    induction l with
    | nil => exact Nat.le_refl _
    | cons p rest ih =>
      have htrim : (trim (String.ofList p)).length ≤ p.length := by
        rw [trim, String.length_ofList, String.toList_ofList]
        exact length_trimChars p
      rw [List.map_cons, List.map_cons, List.filter_cons, lengths_cons]
      split
      · rename_i hne
        have hpart : weight table (trim (String.ofList p)) ≤ 2 * (trim (String.ofList p)).length :=
          weight_le (by simpa using hne)
        rw [budget_cons]
        omega
      · omega
  have hcut := lengths_cutChars mark text.toList
  rw [String.length_toList] at hcut
  exact (hparts _).trans (Nat.mul_le_mul_left 2 hcut)

end Weight

/-! ### What is queued is paid for -/

section Paid

variable {α σ : Type} [Scalar α] [Stage α σ]

/-- The commands that queue others. -/
def queuing : List String := ["quickQuestion", "speakFromState", "loseItems"]

/-- A text that says a line or shows what was lost queues nothing. -/
lemma weight_of_tokens {raw : String} (h : ∀ name args, Script.tokens? raw = some (name :: args) →
    name = "speak" ∨ name = "showItemsLost") :
    weight (table : CommandTable (Handler α σ)) raw = 1 := by
  have hnames : ∀ key ∈ ["speak", "showItemsLost"],
      (∀ command ∈ queuing, Text.lower key ≠ Text.lower command) ∧
        ∀ a ∈ otherNames, Text.lower key ≠ Text.lower a.1 := by
    decide +kernel
  have hother : ((table : CommandTable (Handler α σ)).commandOf raw).1 ∉ queuing := by
    intro hmem
    have hne : ((table : CommandTable (Handler α σ)).commandOf raw).1 ≠ "" := by
      rintro h0
      rw [h0] at hmem
      exact absurd hmem (by decide)
    obtain ⟨name, args, handler, htokens, hresolve, -⟩ := CommandTable.resolve?_of_commandOf hne
    have hkey : name ∈ ["speak", "showItemsLost"] := by simpa using h name args htokens
    rcases CommandTable.lower_of_resolve? hresolve with hsame | ⟨a, ha, hsame, -⟩
    · exact (hnames name hkey).1 _ hmem hsame
    · exact (hnames name hkey).2 a ha hsame
  unfold weight
  split
  · rename_i hname
    exact absurd (by simp [hname, queuing]) hother
  · rename_i hname
    exact absurd (by simp [hname, queuing]) hother
  · rename_i hname
    exact absurd (by simp [hname, queuing]) hother
  · rfl

/-- Whatever the actor and the text are, a line is said by a `speak` if it can be read. -/
lemma weight_speakCommand (actor text : String) :
    weight (table : CommandTable (Handler α σ)) (speakCommand actor text) = 1 := by
  refine weight_of_tokens fun name args htokens => ?_
  have hfront : (speakCommand actor text).toList = "speak ".toList ++
      (actor.toList ++ " ".toList ++ encode text.toList) := by
    simp [speakCommand, toString]
  rw [Script.tokens?, hfront] at htokens
  obtain ⟨ts, hts, hall⟩ := Option.map_eq_some_iff.mp htokens
  simp only [Script.tokensFrom?, Script.isGap, String.reduceToList, List.cons_append,
    Char.reduceBEq, Bool.or_self, Bool.or_false, Bool.false_eq_true, if_false, if_true,
    Char.reduceEq, Option.map_map, Option.map_eq_some_iff] at hts
  obtain ⟨later, -, rfl⟩ := hts
  exact .inl (List.cons.inj hall).1.symm

end Paid

end Commands

namespace Scene

open Commands

variable {α σ : Type} {s t : Scene α σ} {raw : String} {rest : List String}

/-- The commands from the pointer on. -/
def ahead (s : Scene α σ) : List String := s.working.commands.drop s.pointer

lemma ahead_of_stand {p : Stand α} (h : t.stand = p) :
    t.ahead = p.working.commands.drop p.pointer := by
  rw [← h]
  rfl

lemma ahead_eq_cons (h : s.working.get? s.pointer = some raw) :
    s.ahead = raw :: s.working.commands.drop (s.pointer + 1) := by
  obtain ⟨hin, hraw⟩ := List.getElem?_eq_some_iff.mp h
  rw [← hraw]
  exact List.drop_eq_getElem_cons hin

variable [Scalar α] [Stage α σ]

/-- The commands that a command queues cost less than its text. -/
lemma Queues.paid {index : Nat} {new : List String} (hraw : s.working.get? s.pointer = some raw)
    (h : Queues ((table : CommandTable (Handler α σ)).commandOf raw).1 s.underWay
      (.insertAfter index new)) :
    budget (table : CommandTable (Handler α σ)) new <
      weight (table : CommandTable (Handler α σ)) raw := by
  cases h with
  | branch named index picked =>
    have hcurrent : s.underWay.currentCommand? = some raw := hraw
    rw [hcurrent] at picked
    have hbranch := length_of_branch picked
    have hparts := budget_partsBetween (table : CommandTable (Handler α σ)) '\\' ‹String›
    have hweight : weight (table : CommandTable (Handler α σ)) raw = 2 * raw.length := by
      simp only [weight, named]
    rw [Option.getD_some] at hbranch
    omega
  | lost named index =>
    have hshown : weight (table : CommandTable (Handler α σ)) "showItemsLost" = 1 := by
      refine weight_of_tokens fun name args htokens => ?_
      have htoken : Script.tokens? "showItemsLost" = some ["showItemsLost"] := by decide +kernel
      rw [htoken] at htokens
      exact .inr (List.cons.inj (Option.some.inj htokens)).1.symm
    rw [budget_cons, budget_nil, hshown, weight, named]
    exact Nat.lt_succ_self 1

/-- A line costs less than the text that looks it up. -/
lemma Queues.said {index : Nat} {new : String}
    (h : Queues ((table : CommandTable (Handler α σ)).commandOf raw).1 s.underWay
      (.replaceAt index new)) :
    weight (table : CommandTable (Handler α σ)) new <
      weight (table : CommandTable (Handler α σ)) raw := by
  cases h with
  | line named index actor text =>
    rw [weight_speakCommand, weight, named]
    exact Nat.lt_succ_self 1

/-! ### The toll of a round -/

/-- What the commands to come may cost. -/
def dues (s : Scene α σ) : Nat := budget (table : CommandTable (Handler α σ)) s.ahead

/-- A round moves the pointer or edits the list. -/
def Progresses (s : Scene α σ) : Prop := (s.round table).1.mark ≠ s.mark

/-- A round of `fork` or `switchEvent` puts another script in place of the list. -/
def Redirects (s : Scene α σ) : Prop :=
  (s.command.1 = "fork" ∨ s.command.1 = "switchEvent") ∧
    (s.round table).1.working.version ≠ s.working.version

instance : DecidablePred (Progresses : Scene α σ → Prop) :=
  fun s => inferInstanceAs (Decidable ((s.round table).1.mark ≠ s.mark))

instance : DecidablePred (Redirects : Scene α σ → Prop) := fun s =>
  inferInstanceAs (Decidable ((s.command.1 = "fork" ∨ s.command.1 = "switchEvent") ∧
    (s.round table).1.working.version ≠ s.working.version))

/-- What a round of a command of this name does to the commands to come. -/
inductive Toll (name : String) (s t : Scene α σ) : Prop
  /-- None of them is spent. -/
  | stays (working : t.working = s.working) (pointer : t.pointer = s.pointer)
  /-- The first is spent on some that cost less, and others may fall away with it. -/
  | spends {raw : String} {rest : List String} (here : s.ahead = raw :: rest) (new : List String)
      (paid : budget (table : CommandTable (Handler α σ)) new <
        weight (table : CommandTable (Handler α σ)) raw)
      (n : Nat) (next : t.ahead = new ++ rest.drop n)
  | redirects (named : name = "fork" ∨ name = "switchEvent")
      (moved : t.working.version ≠ s.working.version)

omit [Scalar α] [Stage α σ] in
lemma drop_min_size (w : Working) (n : Nat) :
    w.commands.drop (min n w.size) = w.commands.drop n := by
  rcases Nat.le_total n w.size with hle | hle
  · rw [Nat.min_eq_left hle]
  · rw [Nat.min_eq_right hle, List.drop_of_length_le hle, Working.size, List.drop_length]

namespace Toll

variable {name : String}

/-- The first is done. -/
lemma passes (hraw : s.working.get? s.pointer = some raw) (n : Nat)
    (hstand : t.stand = s.stand.advance (n + 1)) : Toll name s t := by
  refine .spends (ahead_eq_cons hraw) [] (weight_pos raw) n ?_
  rw [ahead_of_stand hstand, List.nil_append, List.drop_drop]
  have hplace : s.pointer + 1 + n = s.pointer + (n + 1) := by omega
  rw [hplace]
  exact drop_min_size s.working (s.pointer + (n + 1))

/-- The first is done, and others come behind it. -/
lemma splices (hraw : s.working.get? s.pointer = some raw) (new : List String)
    (paid : budget (table : CommandTable (Handler α σ)) new <
      weight (table : CommandTable (Handler α σ)) raw)
    (hstand : t.stand = { s.stand.advance 1 with
      working := s.working.apply (.insertAfter s.pointer new) }) : Toll name s t := by
  have hin : s.pointer < s.working.size := (List.getElem?_eq_some_iff.mp hraw).1
  have hp : min (s.pointer + 1) s.working.size = s.pointer + 1 := Nat.min_eq_left hin
  have hlen : (s.working.commands.take (s.pointer + 1)).length = s.pointer + 1 :=
    List.length_take_of_le hin
  refine .spends (ahead_eq_cons hraw) new paid 0 ?_
  rw [ahead_of_stand hstand]
  dsimp only [Stand.advance, stand, Working.apply_commands, Working.edited]
  rw [hp, List.append_assoc, List.drop_left' hlen, List.drop_zero]

/-- Another takes the place of the first. -/
lemma rewrites (hraw : s.working.get? s.pointer = some raw) (new : String)
    (paid : weight (table : CommandTable (Handler α σ)) new <
      weight (table : CommandTable (Handler α σ)) raw)
    (hstand : t.stand = { s.stand with
      working := s.working.apply (.replaceAt s.pointer new) }) : Toll name s t := by
  have hin : s.pointer < s.working.commands.length := (List.getElem?_eq_some_iff.mp hraw).1
  refine .spends (ahead_eq_cons hraw) [new] (by simpa using paid) 0 ?_
  rw [ahead_of_stand hstand]
  dsimp only [stand, Working.apply_commands, Working.edited]
  rw [if_pos hin, List.set_eq_take_append_cons_drop, if_pos hin,
    List.drop_left' (List.length_take_of_le hin.le)]
  rfl

lemma of_goes {a : Args} {r : Scene α σ} (hs : s.Calm)
    (hraw : s.working.get? s.pointer = some raw)
    (hname : name = ((table : CommandTable (Handler α σ)).commandOf raw).1)
    (h : Goes name a s.underWay r) (hdeeds : Deeds name s.underWay r) :
    Toll name s (r.onEvent Event.applyEdits).atEase := by
  have hqueued : ∀ e, r.edits = s.underWay.edits ++ [e] → Queues name s.underWay e := by
    intro e hedits
    have hmem : e ∈ r.edits := hedits ▸ List.mem_append_right _ List.mem_cons_self
    have hnone : e ∉ s.underWay.edits := hs.edits ▸ List.not_mem_nil
    exact (hdeeds.edits e hmem).resolve_left hnone
  subst hname
  cases h with
  | holds w helm begun kept =>
    have hstand := hs.stand_of_nil (congrArg Helm.toStand helm) hs.pointer
      (congrArg Helm.edits helm)
    exact .stays (congrArg Stand.working hstand) (congrArg Stand.pointer hstand)
  | passes helm =>
    exact passes hraw 0 (hs.stand_of_nil (congrArg Helm.toStand helm) (Nat.min_le_right _ _)
      (congrArg Helm.edits helm))
  | leaps named unnamed lost helm =>
    exact passes hraw 1 (hs.stand_of_nil (congrArg Helm.toStand helm) (Nat.min_le_right _ _)
      (congrArg Helm.edits helm))
  | splices commands helm =>
    exact splices hraw commands ((hqueued _ (congrArg Helm.edits helm)).paid hraw)
      (hs.stand_of_insertAfter helm)
  | rewrites command helm =>
    exact rewrites hraw command (hqueued _ (congrArg Helm.edits helm)).said
      (hs.stand_of_replaceAt helm)
  | redirects named text swap helm =>
    refine .redirects named ?_
    have hworking := congrArg Stand.working (hs.stand_of_replaceAll helm)
    rw [show (r.onEvent Event.applyEdits).atEase.working = _ from hworking]
    exact Nat.succ_ne_self _

lemma finish {u : Scene α σ} (hworking : u.working = s.working) (hpointer : u.pointer = s.pointer)
    (ending : Ending) : Toll name s (u.finish ending) := by
  obtain ⟨-, hp, hw⟩ := finish_frame u ending
  exact .stays (hw.trans hworking) (hp.trans hpointer)

/-- Where the event does not stand in the list makes no difference. -/
lemma settle (h : Toll name { s with chainRequested := false } t) (phase : Phase) (chain : Bool) :
    Toll name s { t with phase := phase, chainRequested := chain } := by
  cases h with
  | stays working pointer => exact .stays working pointer
  | spends here new paid n next => exact .spends here new paid n next
  | redirects named moved => exact .redirects named moved

end Toll

/-- **A round spends what it gets on by**, unless it puts another script in place of the list. -/
theorem round_toll (hs : s.AtWork) : Toll s.command.1 s (s.round table).1 := by
  rcases round_or_at s with ⟨raw, hat⟩ | hend | hcomment
  · have hcalm := hs.unchained
    obtain ⟨phase, chain, hround⟩ := round_at hs hat
    rw [hround]
    rcases runCommand_performs table_isPerformed hcalm raw with
      ⟨r, hprint, hdeeds, heq⟩ | ⟨u, ending, hu, -, heq⟩
    · rw [← hat.command_eq] at hprint hdeeds
      have htoll := Toll.of_goes hcalm hat.1 (congrArg Prod.fst hat.command_eq) hprint.goes hdeeds
      rw [← heq] at htoll
      exact htoll.settle phase chain
    · have htoll : Toll s.command.1 { s with chainRequested := false } (u.finish ending) :=
        .finish hu.working hu.pointer ending
      rw [← heq] at htoll
      exact htoll.settle phase chain
  · rw [hend]
    exact .finish rfl rfl .plain
  · rw [hcomment]
    cases hget : s.working.get? s.pointer with
    | none =>
      have hout : s.working.size ≤ s.pointer := List.getElem?_eq_none_iff.mp hget
      exact .stays rfl ((Nat.min_eq_right (by omega)).trans (Nat.le_antisymm hout hs.pointer))
    | some raw => exact .passes hget 0 rfl

/-! ### Runs -/

lemma round_dues (hs : s.AtWork) (hkeeps : ¬ s.Redirects) :
    (s.round table).1.dues ≤ s.dues ∧
      (s.Progresses → (s.round table).1.dues < s.dues) := by
  unfold dues
  cases round_toll hs with
  | stays working pointer =>
    have hmark : (s.round table).1.mark = s.mark := by
      unfold mark Stand.mark stand
      rw [working, pointer]
    rw [ahead, working, pointer]
    exact ⟨Nat.le_refl _, fun hprogress => absurd hmark hprogress⟩
  | spends here new paid n next =>
    rename_i raw rest
    have hrest := budget_drop_le (table : CommandTable (Handler α σ)) n rest
    rw [here, next, budget_append, budget_cons]
    exact ⟨by omega, fun _ => by omega⟩
  | redirects named moved => exact absurd ⟨named, moved⟩ hkeeps

/-- Between the rounds nothing is added to the commands to come. -/
lemma Interval.dues (hs : s.AtRest) (h : s.Interval t) :
    t.isTerminal = true ∨ t.dues ≤ s.dues := by
  -- The pointer only moves on.
  have hforward : ∀ n, s.pointer ≤ n → t.stand.working = s.working →
      t.stand.pointer = min n s.working.size → t.dues ≤ s.dues := by
    intro n hn hworking hpointer
    have hahead : t.ahead = s.ahead.drop (n - s.pointer) := by
      unfold ahead
      rw [show t.working = _ from hworking, show t.pointer = _ from hpointer, drop_min_size,
        List.drop_drop, Nat.add_sub_cancel' hn]
    unfold Scene.dues
    rw [hahead]
    exact budget_drop_le _ _ _
  cases h with
  | untouched same =>
    refine .inr (hforward s.pointer (Nat.le_refl _) (congrArg Stand.working same.stand) ?_)
    rw [same.stand]
    exact (Nat.min_eq_left hs.pointer).symm
  | ends goes o ends => exact .inl ends.isTerminal
  | opens goes more opening =>
    refine .inr ?_
    cases opening.opened with
    | stays hstand free goes =>
      refine hforward s.pointer (Nat.le_refl _) (congrArg Stand.working hstand) ?_
      rw [hstand]
      exact (Nat.min_eq_left hs.pointer).symm
    | reads fresh n len hstand free =>
      refine hforward n ?_ (congrArg Stand.working hstand) ?_
      · rw [(hs.fresh fresh).1]
        exact Nat.zero_le n
      · rw [hstand]
        exact (Nat.min_eq_left len).symm
    | lands held stop closed running hstand =>
      refine hforward (s.pointer + 1) (Nat.le_succ _) (congrArg Stand.working hstand) ?_
      rw [hstand]
      rfl

namespace Passage

variable {scenes : List (Scene α σ)}

/-- An event that is over has no rounds. -/
lemma idle (h : Passage s scenes t) (hover : s.isTerminal = true) : scenes = [] := by
  induction h with
  | stays => rfl
  | pauses rest interval _ ih =>
    refine ih ?_
    cases interval with
    | untouched same => exact same.isTerminal.trans hover
    | ends goes => exact absurd hover (by simp [goes])
    | opens goes => exact absurd hover (by simp [goes])
  | rounds work => exact absurd hover (by simp [work.isTerminal])

/-- The rounds of a passage that get on are paid for until one of them puts another script in place
of the list. -/
theorem spends (h : Passage s scenes t) :
    (scenes.takeWhile fun d => ¬ d.Redirects).countP (fun d => d.Progresses) ≤ s.dues := by
  induction h with
  | stays => exact Nat.zero_le _
  | pauses rest interval later ih =>
    rcases interval.dues rest with hover | hdues
    · rw [later.idle hover]
      exact Nat.zero_le _
    · exact ih.trans hdues
  | rounds work later ih =>
    rename_i d u scenes
    by_cases hredirects : d.Redirects
    · rw [List.takeWhile_cons_of_neg (by simpa using hredirects)]
      exact Nat.zero_le _
    · obtain ⟨hle, hlt⟩ := round_dues work hredirects
      rw [List.takeWhile_cons_of_pos (by simpa using hredirects)]
      by_cases hprogress : d.Progresses
      · rw [List.countP_cons_of_pos (by simpa using hprogress)]
        exact Nat.succ_le_of_lt (ih.trans_lt (hlt hprogress))
      · rw [List.countP_cons_of_neg (by simpa using hprogress)]
        exact ih.trans hle

/-- Each of the rounds begins a passage of its own. -/
lemma from_round {earlier later : List (Scene α σ)} {d : Scene α σ}
    (h : Passage s (earlier ++ d :: later) t) : Passage d (d :: later) t := by
  generalize hall : earlier ++ d :: later = scenes at h
  induction h generalizing earlier with
  | stays => simp at hall
  | pauses rest interval _ ih => exact ih hall
  | rounds work hlater ih =>
    cases earlier with
    | nil =>
      obtain ⟨rfl, rfl⟩ := List.cons.inj hall
      exact .rounds work hlater
    | cons e earlier => exact ih (List.cons.inj hall).2

end Passage

end Scene

open Scene Commands

/-- **Splices cannot make a script run for ever.** From the end of any run, and from each of the
rounds that follow, only so many rounds get on as the commands to come can pay for, unless a `fork`
or a `switchEvent` puts another script in place of the list. What they can pay shows in their texts
alone, whatever the stage answers and whatever texts it supplies. -/
theorem splices_run_out {α σ : Type} [Scalar α] [Stage α σ] (p : Premiere α σ)
    (before after : List (HostMove α σ)) :
    (((p.scene.play table before).rounds table after).takeWhile fun d => ¬ d.Redirects).countP
        (fun d => d.Progresses) ≤ (p.scene.play table before).dues ∧
      ∀ earlier d later, (p.scene.play table before).rounds table after = earlier ++ d :: later →
        ((d :: later).takeWhile fun e => ¬ e.Redirects).countP (fun e => e.Progresses) ≤
          d.dues := by
  have hpassage := play_passage (atRest_play p.atRest before) after
  refine ⟨hpassage.spends, fun earlier d later hsplit => ?_⟩
  rw [hsplit] at hpassage
  exact hpassage.from_round.spends

end Cutscene
