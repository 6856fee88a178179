/-!
# Turns of a task

Work that takes time is a task: it makes one move after another, and between two moves it may have to
wait. A move leaves the task with more to do or ends it with a result.
-/

set_option autoImplicit false
set_option relaxedAutoImplicit false

namespace Courier

/-- What a move leaves: a task with more to do, or a result. -/
inductive Turn (Task Result : Type) where
  | going (task : Task)
  | done (result : Result)

end Courier
