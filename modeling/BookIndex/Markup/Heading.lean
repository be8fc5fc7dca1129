import BookIndex.Text.Lower

namespace BookIndex.Markup

structure Heading where
  main : Text
  sub : Text
  subsub : Text
  deriving DecidableEq, Repr

namespace Heading

def ofLevels (levels : List Text) : Heading :=
  ⟨levels.headD [], levels.tail.headD [], levels.tail.tail.headD []⟩

def toList (h : Heading) : List Text := [h.main, h.sub, h.subsub]

def map (f : Text → Text) (h : Heading) : Heading := ⟨f h.main, f h.sub, f h.subsub⟩

def orElse (h k : Heading) : Heading :=
  let pick (a b : Text) := if a.isEmpty then b else a
  ⟨pick h.main k.main, pick h.sub k.sub, pick h.subsub k.subsub⟩

def lower (h : Heading) : Heading := h.map Text.lower

def sameMain (h k : Heading) : Bool := Text.lower h.main == Text.lower k.main

def sameSub (h k : Heading) : Bool := h.sameMain k && Text.lower h.sub == Text.lower k.sub

def sameAll (h k : Heading) : Bool := h.sameSub k && Text.lower h.subsub == Text.lower k.subsub

def le (h k : Heading) : Bool :=
  if h.main = k.main then
    if h.sub = k.sub then Text.le h.subsub k.subsub else Text.le h.sub k.sub
  else Text.le h.main k.main

theorem sameAll_iff (h k : Heading) : h.sameAll k = true ↔ h.lower = k.lower := by
  simp [sameAll, sameSub, sameMain, lower, map, and_assoc]

end Heading
end BookIndex.Markup
