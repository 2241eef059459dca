import UtilityCss.Resolve.Cache

namespace UtilityCss

-- What answers is left open: the theme, or a table of the verdicts that the theme gave before.
inductive Inquiry (α : Type) where
  | done (result : α)
  | ask (scale : ScaleName) (value : String) (next : Verdict → Inquiry α)

namespace Inquiry

variable {α β : Type}

def bind (inquiry : Inquiry α) (use : α → Inquiry β) : Inquiry β :=
  match inquiry with
  | done result => use result
  | ask scale value next => ask scale value fun verdict => (next verdict).bind use

instance : Monad Inquiry where
  pure := done
  bind := bind

def verdict (scale : ScaleName) (value : String) : Inquiry Verdict := ask scale value done

def each (inquire : α → Inquiry β) : List α → Inquiry (List β)
  | [] => return []
  | first :: rest => return (← inquire first) :: (← each inquire rest)

def judged (ctx : Context) : Inquiry α → α
  | done result => result
  | ask scale value next => (next (resolve ctx scale value)).judged ctx

def through (owner : Nat) (ctx : Context) : Inquiry α → Cache → α × Cache
  | done result, cache => (result, cache)
  | ask scale value next, cache =>
    let answer := cache.resolve owner ctx scale value
    (next answer.1).through owner ctx answer.2

variable {ctx : Context}

@[simp] theorem judged_pure (result : α) : (pure result : Inquiry α).judged ctx = result := rfl

@[simp] theorem judged_done (result : α) : (done result).judged ctx = result := rfl

@[simp] theorem judged_verdict (scale : ScaleName) (value : String) :
    (verdict scale value).judged ctx = resolve ctx scale value := rfl

@[simp] theorem judged_bind (inquiry : Inquiry α) (use : α → Inquiry β) :
    (inquiry >>= use).judged ctx = (use (inquiry.judged ctx)).judged ctx := by
  induction inquiry with
  | done result => rfl
  | ask scale value next ih => exact ih (resolve ctx scale value)

@[simp] theorem judged_ite (condition : Prop) [Decidable condition] (one two : Inquiry α) :
    (if condition then one else two).judged ctx = if condition then one.judged ctx else two.judged ctx :=
  apply_ite (judged ctx) condition one two

theorem judged_of_resolve (a b : Context) (same : resolve a = resolve b) (inquiry : Inquiry α) :
    inquiry.judged a = inquiry.judged b := by
  induction inquiry with
  | done result => rfl
  | ask scale value next ih => rw [judged, judged, same, ih]

@[simp] theorem judged_each (inquire : α → Inquiry β) (items : List α) :
    (each inquire items).judged ctx = items.map fun item => (inquire item).judged ctx := by
  induction items with
  | nil => rfl
  | cons first rest ih => simp only [each, judged_bind, judged_pure, ih, List.map_cons]

end Inquiry
end UtilityCss
