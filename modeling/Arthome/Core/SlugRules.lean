import Arthome.Core.Vocabulary

/-!
# Core's rules for a public slug

What `@arthome/core` says of a venue's wall clock and of the days a slug leads on after
it is left, and the folding of a text that JavaScript's strings do themselves.
-/

namespace Arthome.Core

/-- A venue's wall clock. -/
structure WallClock where
  year : ℤ
  month : Fin 13
  day : Fin 32
  hour : Fin 24
  minute : Fin 60
  deriving Repr, DecidableEq

class SlugRules where
  /-- The wall clock at the instant in the time zone. -/
  wallClockAt : Instant → String → WallClock
  /-- Decomposed, without its combining marks, in lower case. -/
  folded : String → String
  SLUG_REDIRECT_DAYS : ℤ

end Arthome.Core
