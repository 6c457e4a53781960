/-!
# Sources of ids

The ids that new traces and spans are given. A source yields the ids that it lists and then
consecutive ones, without end; a scattered source yields ids in no apparent order, none twice before
all have come.
-/

namespace TracePipeline

inductive IdSource where
  | listed (ids : List UInt64) (next : UInt64)
  | scattered (state : UInt64)

namespace IdSource

/-- Consecutive ids from one on. -/
def consecutive : IdSource := listed [] 1

/-- Spreads a number over all 64 bits; different numbers stay different. -/
def scramble (n : UInt64) : UInt64 :=
  let a := (n ^^^ (n >>> 30)) * 0xBF58476D1CE4E5B9
  let b := (a ^^^ (a >>> 27)) * 0x94D049BB133111EB
  b ^^^ (b >>> 31)

/-- The next id. -/
def draw : IdSource → UInt64 × IdSource
  | listed [] next => (next, listed [] (next + 1))
  | listed (id :: ids) next => (id, listed ids next)
  | scattered state =>
    let state := state + 0x9E3779B97F4A7C15
    (scramble state, scattered state)

/-- The next id that differs from `used`. Two ids that follow each other at the end of a source are
different, so the search ends. -/
def drawOther (used : UInt64) : IdSource → UInt64 × IdSource
  | listed (id :: ids) next =>
    if id = used then drawOther used (listed ids next) else (id, listed ids next)
  | source =>
    let (id, rest) := source.draw
    if id = used then rest.draw else (id, rest)

/-- The next `n` ids. -/
def drawMany : (n : Nat) → IdSource → List UInt64 × IdSource
  | 0, source => ([], source)
  | n + 1, source =>
    let (id, source) := source.draw
    let (ids, source) := drawMany n source
    (id :: ids, source)

end IdSource

end TracePipeline
