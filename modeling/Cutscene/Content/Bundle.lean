/-!
Event content as it is written: bundles of scripts, and the villagers who dance together by
default. The entries of a bundle are kept in the order of their names.
-/

namespace Cutscene

/-- Puts a value under a name in its place among sorted names, over one that is there. -/
def insertSorted {β : Type} (name : String) (value : β) : List (String × β) → List (String × β)
  | [] => [(name, value)]
  | m :: rest =>
    if name < m.1 then (name, value) :: m :: rest
    else if name = m.1 then (name, value) :: rest
    else m :: insertSorted name value rest

/-- Named values in the order of their names; of two with one name the later stays. -/
def sortedByName {β : Type} (pairs : List (String × β)) : List (String × β) :=
  pairs.foldl (fun sorted p => insertSorted p.1 p.2 sorted) []

/-- One asset: scripts by the name of their entry. -/
structure Bundle where
  asset : String
  entries : List (String × String)
  deriving DecidableEq, Repr

/-- Two villagers who dance together unless somebody else asks one of them. -/
structure RosterPair where
  leader : String
  follower : String
  deriving DecidableEq, Repr

/-- The default pairs of a dance, in the order in which they fill it. -/
structure DanceRoster where
  pairs : List RosterPair
  deriving DecidableEq, Repr

namespace DanceRoster

def leaders (r : DanceRoster) : List String := r.pairs.map RosterPair.leader

def followers (r : DanceRoster) : List String := r.pairs.map RosterPair.follower

end DanceRoster

/-- Everything that a content file holds. -/
structure Content where
  bundles : List Bundle
  danceRoster : Option DanceRoster
  deriving DecidableEq, Repr

end Cutscene
