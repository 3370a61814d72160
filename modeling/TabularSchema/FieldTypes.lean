import TabularSchema.DataType.Join

/-!
# Field types

The types observed so far, by field name, in the order in which the names were first seen. A new
observation of a known name is joined with what is known. `FieldTypes.merge` takes all observations
of a second collection after those of the first.
-/

namespace TabularSchema

/-- A type for each field name, in order of first sight. -/
abbrev FieldTypes := List Field

namespace FieldTypes

def names (fs : FieldTypes) : List String := fs.map Prod.fst

def Distinct (fs : FieldTypes) : Prop := fs.names.Nodup

def get? (fs : FieldTypes) (name : String) : Option DataType :=
  (fs.find? (fun f => f.1 == name)).map Prod.snd

/-- Takes one more observation of a field into account. -/
def observe (fs : FieldTypes) (name : String) (t : DataType) : FieldTypes :=
  match fs with
  | [] => [(name, t)]
  | (n, u) :: fs => if n = name then (n, u.join t) :: fs else (n, u) :: observe fs name t

theorem names_observe (fs : FieldTypes) (name : String) (t : DataType) :
    (fs.observe name t).names = if name ∈ fs.names then fs.names else fs.names ++ [name] := by
  induction fs with
  | nil => simp [observe, names]
  | cons f fs ih =>
    by_cases h : f.1 = name
    · simp [observe, names, h]
    · have h' : name ≠ f.1 := fun e => h e.symm
      by_cases hmem : name ∈ names fs
      · simp_all [observe, names]
      · simp_all [observe, names]

theorem Distinct.observe {fs : FieldTypes} (h : fs.Distinct) (name : String) (t : DataType) :
    (fs.observe name t).Distinct := by
  unfold Distinct at h ⊢
  rw [names_observe]
  split
  · exact h
  · next hmem =>
    refine List.nodup_append.2 ⟨h, by simp, fun a ha b hb hab => ?_⟩
    rw [List.mem_singleton] at hb
    exact hmem (hb ▸ hab ▸ ha)

/-- Takes the observations of a list of fields into account, in their order. -/
def merge (fs : FieldTypes) (gs : List Field) : FieldTypes :=
  gs.foldl (fun acc g => acc.observe g.1 g.2) fs

@[simp] theorem merge_nil (fs : FieldTypes) : fs.merge [] = fs := rfl

@[simp] theorem merge_cons (fs : FieldTypes) (g : Field) (gs : List Field) :
    fs.merge (g :: gs) = (fs.observe g.1 g.2).merge gs := rfl

theorem merge_append (fs : FieldTypes) (gs hs : List Field) :
    fs.merge (gs ++ hs) = (fs.merge gs).merge hs := by
  simp [merge, List.foldl_append]

theorem Distinct.merge {fs : FieldTypes} (h : fs.Distinct) (gs : List Field) :
    (fs.merge gs).Distinct := by
  induction gs generalizing fs with
  | nil => exact h
  | cons g gs ih => exact ih (h.observe g.1 g.2)

/-- Gives a name a type, in its place if the name is known and at the end otherwise. -/
def put (fs : FieldTypes) (name : String) (t : DataType) : FieldTypes :=
  match fs with
  | [] => [(name, t)]
  | (n, u) :: fs => if n = name then (n, t) :: fs else (n, u) :: put fs name t

/-- The field types given by pairs, of which the last for each name counts. -/
def ofPairs (pairs : List Field) : FieldTypes :=
  pairs.foldl (fun acc p => acc.put p.1 p.2) []

end FieldTypes

end TabularSchema
