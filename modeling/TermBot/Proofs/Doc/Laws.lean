import TermBot.Proofs.Doc.Layouts

/-!
# The laws of documents

The laws of sequences, indentation and groups hold wherever a document stands, for the layout and for the tests
that decide the groups before it: each one is a pair of documents that are `Alike`. On an arena a law is a choice
between two ways of making a document of earlier ones (`Law`), and no text that any later operations give tells
which one was taken (`law_texts`).
-/

namespace TermBot.Doc

namespace Alike

variable [Text.Measure] {width indent col : Int64} {flat : Bool} {after : Int64 → Bool} {d : Doc}

theorem written_nest (columns : Int64) : (Doc.nest columns d).written width indent flat after col =
    d.written width (indent + columns) flat after col := rfl

theorem nest_nest (m n : Int64) (d : Doc) : (Doc.nest m (.nest n d)).Alike (.nest (m + n) d) where
  fits := (refl d).fits
  written ahead w i col := by
    simp only [written_nest, Int64.add_assoc]
    exact (refl d).written ahead w _ col

theorem nest_append (n : Int64) (a b : Doc) : (Doc.nest n (a ++ b)).Alike (.nest n a ++ .nest n b) where
  fits := (refl (a ++ b)).fits
  written ahead w i col := (refl (a ++ b)).written ahead w (i + n) col

/-- A group that is decided within another one is decided as that one was. -/
theorem group_group (d : Doc) : (Doc.group (.group d)).Alike (.group d) where
  fits := (refl d).fits
  written {flat after after'} ahead w i col := by
    have tested {room : Int64} : (Doc.group d).fits true after room = d.fits true after room := rfl
    rw [← (refl (.group d)).written ahead, written_group, written_group, written_group, tested, Bool.or_assoc,
      Bool.or_self]

theorem group_text (s : String) : (Doc.group (.text s)).Alike (.text s) where
  fits := (text s).fits
  written _ _ _ _ := rfl

end Alike

namespace Arena

/-- A law of documents, applied to documents that were made before. -/
inductive Law where
  | concatConcat (a b c : Ref)
  | nilConcat (a : Ref)
  | concatNil (a : Ref)
  | nestNest (m n : Int64) (d : Ref)
  | nestConcat (n : Int64) (a b : Ref)
  | groupGroup (d : Ref)
  | groupText (s : String)

namespace Law

/-- Makes the left side of a law. -/
def left [Text.Measure] (c : Client) : Law → StateM Arena Handle
  | concatConcat r s t => do concat [← concat [c.handle r, c.handle s], c.handle t]
  | nilConcat r => concat [0, c.handle r]
  | concatNil r => concat [c.handle r, 0]
  | nestNest m n r => do nest m (← nest n (c.handle r))
  | nestConcat n r s => do nest n (← concat [c.handle r, c.handle s])
  | groupGroup r => do group (← group (c.handle r))
  | groupText s => do group (← Arena.text s)

/-- Makes the right side of a law. -/
def right [Text.Measure] (c : Client) : Law → StateM Arena Handle
  | concatConcat r s t => do concat [c.handle r, ← concat [c.handle s, c.handle t]]
  | nilConcat r => pure (c.handle r)
  | concatNil r => pure (c.handle r)
  | nestNest m n r => nest (m + n) (c.handle r)
  | nestConcat n r s => do concat [← nest n (c.handle r), ← nest n (c.handle s)]
  | groupGroup r => group (c.handle r)
  | groupText s => Arena.text s

/-- The document that both sides of a law are laid out like. -/
def doc (ds : List Doc) : Law → Doc
  | concatConcat r s t => r.doc ds ++ (s.doc ds ++ t.doc ds)
  | nilConcat r => r.doc ds
  | concatNil r => r.doc ds
  | nestNest m n r => .nest (m + n) (r.doc ds)
  | nestConcat n r s => .nest n (r.doc ds) ++ .nest n (s.doc ds)
  | groupGroup r => .group (r.doc ds)
  | groupText s => .text s

end Law

variable [Text.Measure] {a : Arena} {h k : Handle} {d e : Doc} {op : StateM Arena Handle} {c : Client} {ds : List Doc}

theorem Yields.like (makes : a.Makes op d) (same : d.Alike e) : a.Makes op e :=
  makes.imp fun _ _ _ made => made.like same

theorem makes_pair (wf : a.WellFormed) (first : a.Holds h d) (second : a.Holds k e) :
    a.Makes (concat [h, k]) (d ++ e) := makes_concat wf (.cons first (.cons second .nil))

theorem Client.Stands.makes_left (stands : c.Stands ds) (law : Law) : c.arena.Makes (law.left c) (law.doc ds) := by
  have holds := stands.handle
  cases law with
  | concatConcat r s t =>
    refine Yields.like ?_ (.append_assoc _ _ _)
    refine (makes_pair stands.wf (holds r) (holds s)).bind fun b h wf keeps made => ?_
    exact makes_pair wf made ((holds t).keep keeps)
  | nilConcat r => exact (makes_pair stands.wf (holds_zero _) (holds r)).like (.nil_append _)
  | concatNil r => exact (makes_pair stands.wf (holds r) (holds_zero _)).like (.append_nil _)
  | nestNest m n r =>
    refine Yields.like ?_ (.nest_nest m n _)
    exact (makes_nest stands.wf n (holds r)).bind fun b h wf _ made => makes_nest wf m made
  | nestConcat n r s =>
    refine Yields.like ?_ (.nest_append n _ _)
    exact (makes_pair stands.wf (holds r) (holds s)).bind fun b h wf _ made => makes_nest wf n made
  | groupGroup r =>
    refine Yields.like ?_ (.group_group _)
    exact (makes_group stands.wf (holds r)).bind fun b h wf _ made => makes_group wf made
  | groupText s =>
    refine Yields.like ?_ (.group_text s)
    exact (makes_text stands.wf s).bind fun b h wf _ made => makes_group wf made

theorem Client.Stands.makes_right (stands : c.Stands ds) (law : Law) :
    c.arena.Makes (law.right c) (law.doc ds) := by
  have holds := stands.handle
  cases law with
  | concatConcat r s t =>
    refine (makes_pair stands.wf (holds s) (holds t)).bind fun b h wf keeps made => ?_
    exact makes_pair wf ((holds r).keep keeps) made
  | nilConcat r => exact .pure stands.wf (holds r)
  | concatNil r => exact .pure stands.wf (holds r)
  | nestNest m n r => exact makes_nest stands.wf (m + n) (holds r)
  | nestConcat n r s =>
    refine (makes_nest stands.wf n (holds r)).bind fun b h wf keeps first => ?_
    refine (makes_nest wf n ((holds s).keep keeps)).bind fun b' k wf keeps second => ?_
    exact makes_pair wf (first.keep keeps) second
  | groupGroup r => exact makes_group stands.wf (holds r)
  | groupText s => exact makes_text stands.wf s

/-- **Both sides of a law can be used in each other's place.** Whatever documents were made before, and whatever is
built of the side that was taken and of the others later, by whichever operations and at whichever widths it is laid
out: all texts are the same. -/
theorem law_texts (before : List Op) (law : Law) (later : List Op) :
    let c := (({} : Client).run before).2
    ((c.make (law.left c)).2.run later).1 = ((c.make (law.right c)).2.run later).1 := by
  intro c
  have stands : c.Stands (Op.made [] before) := Client.stands_new.made before
  have left := stands.make (stands.makes_left law)
  have right := stands.make (stands.makes_right law)
  exact (left.run later).1.trans (right.run later).1.symm

end Arena

end TermBot.Doc
