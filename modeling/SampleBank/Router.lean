import SampleBank.KeyRange

/-!
# Key maps

A `Router` holds, for each program, the key ranges bound there in the order in which they were
bound. Its `OverlapPolicy` decides what happens to a range that shares keys with an earlier one:
it is refused, or it is accepted and shadows the earlier one on the keys they share. Every range
is numbered when it is bound, across all programs, and a lookup takes the range with the highest
number among those that cover the key (`Router.resolve`). Programs without ranges are not kept.

What is asked of the whole map is collected program after program and sorted afterwards
(`Router.listing`, `Router.bindings`), so the order in which the programs are visited does not
show.
-/

namespace SampleBank

/-- What happens to a range that overlaps one already bound in the same program. -/
inductive OverlapPolicy
  | reject
  | lastWins
deriving DecidableEq

instance : Inhabited OverlapPolicy := ⟨.reject⟩

/-- A range in a key map, and its number among all that were ever bound there. -/
structure BoundRange where
  range : KeyRange
  order : Nat
deriving DecidableEq

/-- Key ranges by program. -/
structure Router where
  policy : OverlapPolicy
  /-- What is bound in each program that has any range, in bind order. -/
  programs : SortedMap Program (List BoundRange)
  /-- The number of the next range. -/
  nextOrder : Nat
deriving DecidableEq

/-- Why a router refuses a range. -/
inductive RouterError
  | argument (e : ArgumentError)
  | overlap (wanted : KeyRange) (program : Program) (bound : KeyRange)
deriving DecidableEq

namespace Router

/-- The router without ranges. -/
def empty (policy : OverlapPolicy) : Router := ⟨policy, .empty, 0⟩

/-- What is bound in a program, in bind order. -/
def bound (r : Router) (p : Program) : List BoundRange := (r.programs.find? p).getD []

/-- The ranges of a program, in bind order. -/
def ranges (r : Router) (p : Program) : List KeyRange := (r.bound p).map (·.range)

/-- Whether a range may be bound: the program has to be valid, and under `reject` no range bound
there may share a key with it. -/
def check (r : Router) (p : Program) (range : KeyRange) : Except RouterError Unit :=
  match checkProgram p with
  | .error e => .error (.argument e)
  | .ok () =>
    match r.policy with
    | .lastWins => .ok ()
    | .reject =>
      match (r.ranges p).find? (·.overlaps range) with
      | some bound => .error (.overlap range p bound)
      | none => .ok ()

/-- Adds a range behind the others of its program, unchecked. -/
def insert (r : Router) (p : Program) (range : KeyRange) : Router :=
  { r with
    programs := r.programs.insert p (r.bound p ++ [⟨range, r.nextOrder⟩])
    nextOrder := r.nextOrder + 1 }

/-- Binds a sample to the keys from `lokey` to `hikey`. -/
def bind (r : Router) (p : Program) (lokey hikey : UInt8) (sample : SampleHandle) :
    Except RouterError (KeyRange × Router) :=
  match KeyRange.make? lokey hikey sample with
  | .error e => .error (.argument e)
  | .ok range =>
    match r.check p range with
    | .error e => .error e
    | .ok () => .ok (range, r.insert p range)

/-- Whether a sample is bound in a program. -/
def isBound (r : Router) (p : Program) (sample : SampleHandle) : Bool :=
  (r.ranges p).any (·.sample = sample)

/-- What is left of a program without the ranges of a sample, if anything. -/
def without? (sample : SampleHandle) (bound : List BoundRange) : Option (List BoundRange) :=
  let left := bound.filter (·.range.sample ≠ sample)
  if left.isEmpty then none else some left

/-- Takes a sample out of a program; a program left without ranges is dropped. -/
def remove (r : Router) (p : Program) (sample : SampleHandle) : Router :=
  { r with
    programs := match without? sample (r.bound p) with
      | none => r.programs.erase p
      | some left => r.programs.insert p left }

/-- Removes the ranges of a sample from a program and returns them in bind order; nothing if there
are none. -/
def unbind? (r : Router) (p : Program) (sample : SampleHandle) :
    Option (List KeyRange × Router) :=
  let removed := (r.ranges p).filter (·.sample = sample)
  if removed.isEmpty then none else some (removed, r.remove p sample)

/-- The programs among those visited in which a sample is bound, in ascending order. -/
def programsOf (sample : SampleHandle) (visited : List (Program × List BoundRange)) :
    List Program :=
  ((visited.filter fun e => e.2.any (·.range.sample = sample)).map (·.1)).mergeSort
    (Numbered.number · ≤ Numbered.number ·)

/-- The programs in which a sample is bound, in ascending order. -/
def boundIn (r : Router) (sample : SampleHandle) : List Program :=
  programsOf sample r.programs.toList

/-- Removes a sample from every program. -/
def unbindAll (r : Router) (sample : SampleHandle) : Router :=
  (r.boundIn sample).foldl (fun r p => r.remove p sample) r

/-- The range that was bound last, by its number. -/
def latest? : List BoundRange → Option BoundRange
  | [] => none
  | b :: rest =>
    match latest? rest with
    | none => some b
    | some later => if b.order ≤ later.order then some later else some b

/-- The sample that plays on a key: that of the latest range which covers it. -/
def resolve (r : Router) (p : Program) (key : UInt8) : Option SampleHandle :=
  (latest? ((r.bound p).filter (·.range.covers key))).map (·.range.sample)

/-- The place of a binding in the order by bank, preset, low key and high key. -/
def rank (b : Program × KeyRange) : Nat :=
  (Numbered.number b.1 * 256 + b.2.lokey.toNat) * 256 + b.2.hikey.toNat

/-- The bindings of the programs that are visited, one program after the other. -/
def listing (visited : List (Program × List BoundRange)) : List (Program × KeyRange) :=
  visited.flatMap fun (p, bound) => bound.map fun b => (p, b.range)

/-- Sorts bindings by bank, preset, low key and high key, and leaves those that agree in all of
them as they are. -/
def arrange (bindings : List (Program × KeyRange)) : List (Program × KeyRange) :=
  bindings.mergeSort (rank · ≤ rank ·)

/-- Every binding, by program, low key and high key, and in bind order where these agree. -/
def bindings (r : Router) : List (Program × KeyRange) := arrange (listing r.programs.toList)

/-- Removes every range. The numbering goes on. -/
def clear (r : Router) : Router := { r with programs := .empty }

/-- The number of ranges in the programs that are visited. -/
def count (visited : List (Program × List BoundRange)) : Nat :=
  (visited.map (·.2.length)).foldr (· + ·) 0

/-- The number of ranges. -/
def size (r : Router) : Nat := count r.programs.toList

/-- Whether no program has ranges. -/
def isEmpty (r : Router) : Bool := r.programs.isEmpty

end Router

end SampleBank
