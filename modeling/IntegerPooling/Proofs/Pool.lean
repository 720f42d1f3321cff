import IntegerPooling.Pool
import IntegerPooling.Proofs.Cache
import IntegerPooling.Proofs.Direct.Agreement

/-!
# Pooling is what it is by definition

Every kernel that can be built for a source gives the list that the definition of pooling gives,
whatever host, instruction set and unrolling it was built for and in whatever order it visits the
pixels (`runElements_eq_pool`). A kernel that can be built at all can also be built with the
standard options on a host with all instruction sets, so pooling in one step gives the same list
again, with a cache of any history (`pooling_agrees`). The standard traversal is one of the orders
as soon as there is an image (`Layout.visitsOnce_standard`).
-/

namespace IntegerPooling

namespace Kernel

variable {kernel : Kernel}

/-- A kernel gives the list that the definition of pooling gives. -/
theorem runElements_eq_pool {operator : Operator} {s d : ElementType} {batch channels : Nat}
    {extent : Spatial} {destination : Layout} {host : Capabilities} {options : Options}
    (described : operator.destination ⟨batch, channels, extent, s.dataType⟩ d.dataType =
      .ok destination)
    (built : (build operator ⟨batch, channels, extent, s.dataType⟩ destination host
      options).outcome = .ok kernel)
    (bounded : Direct.Bounded operator ⟨batch, channels, extent, s.dataType⟩ destination)
    {source : List (Element s)}
    (whole : source.length = batch * channels * extent.height * extent.width) :
    ∃ pooled, Direct.pool operator d batch channels extent source = .ok pooled ∧
      ∀ traversal : Traversal,
        traversal.VisitsOnce batch destination.extent.height destination.extent.width →
          ∀ output : List (Element d), output.length = destination.count →
            (kernel.runElements traversal source output).outcome = .ok pooled := by
  have conditions := built_of_build built
  have fits := conditions.fits
  have sound := conditions.planned.sound
  have sourceEq := conditions.planned.sourceLayout_eq
  have destinationEq := conditions.planned.destinationLayout_eq
  subst destinationEq
  have destinationType : kernel.plan.destination = d.dataType := by
    simp only [Operator.destination, Outcome.bind_eq_ok_iff] at described
    rcases described with ⟨_, _, same⟩
    exact (congrArg Layout.dataType (Except.ok.inj same)).symm
  obtain rfl := fits.path_destination destinationType
  simp only [Plan.sourceLayout, Layout.mk.injEq] at sourceEq
  rcases sourceEq with ⟨rfl, rfl, rfl, sourceType⟩
  obtain rfl := fits.path_source sourceType
  have layoutEq : (⟨kernel.plan.batch, kernel.plan.channels, kernel.plan.input,
      kernel.routine.path.source.dataType⟩ : Layout) = kernel.sourceLayout := by
    rw [fits.chosen.source_eq]
    rfl
  rw [layoutEq] at described bounded
  rw [fits.chosen.destination_eq] at described
  refine ⟨_, pool_eq_ok fits sound bounded whole described, ?_⟩
  intro traversal visits output outputLength
  have sized := sized_of_bounded fits sound bounded
  have light : ¬kernel.plan.Heavy := by
    rintro ⟨_, _, large⟩
    rw [sound.kernel_eq] at large
    exact Nat.not_lt_of_le large bounded.kernel_small
  have sourceSized := Layout.byteSize_of_length sized.source fits.chosen.source_eq whole
  have destinationSized :=
    Layout.byteSize_of_length sized.destination fits.chosen.destination_eq outputLength
  rw [runElements_eq_rowMajor fits sound visits]
  exact runElements_eq_ok fits sound light sourceSized destinationSized

/-- What can be built for some host and options can be built for a full host by default. -/
theorem exists_build_standard {operator : Operator} {source destination : Layout}
    {host : Capabilities} {options : Options}
    (built : (build operator source destination host options).outcome = .ok kernel) :
    ∃ standard, (build operator source destination .full .standard).outcome = .ok standard := by
  rcases exists_build_iff.mp ⟨kernel, built⟩ with ⟨_, suited⟩
  apply exists_build_iff.mpr
  refine ⟨⟨?_, ?_⟩, suited⟩
  · intro noneAvailable
    exact Bool.noConfusion (noneAvailable .wide)
  · rintro (small | large)
    · exact absurd small (by decide)
    · exact absurd large (by decide)

end Kernel

/-- The pixels of a tensor with channels can be numbered when its elements can, which is all that
the standard traversal needs. -/
theorem Layout.visitsOnce_standard {layout : Layout} (batchPos : 0 < layout.batch)
    (channelsPos : 0 < layout.channels) (counted : layout.count < Size.limit) :
    Traversal.standard.VisitsOnce layout.batch layout.extent.height layout.extent.width := by
  have planeLe : layout.extent.height * layout.extent.width ≤
      layout.batch * (layout.extent.height * layout.extent.width) :=
    Nat.le_mul_of_pos_left _ batchPos
  have totalLe : layout.batch * (layout.extent.height * layout.extent.width) ≤ layout.count := by
    rw [count_eq]
    exact Nat.le_mul_of_pos_right _ channelsPos
  apply Traversal.visitsOnce_flattened
  · omega
  · omega

namespace Cache

variable {operator : Operator} {s d : ElementType} {batch channels : Nat} {extent : Spatial}
  {destination : Layout} {kernel : Kernel} {source : List (Element s)}

theorem pool_eq_ok {cache : Cache} (faithful : cache.Faithful)
    (described : operator.destination ⟨batch, channels, extent, s.dataType⟩ d.dataType =
      .ok destination)
    (built : (Kernel.build operator ⟨batch, channels, extent, s.dataType⟩ destination cache.host
      .standard).outcome = .ok kernel)
    (allocated : destination.allocation = .ok destination.count) {traversal : Traversal}
    {pooled : List (Element d)}
    (ran : ∀ output : List (Element d), output.length = destination.count →
      (kernel.runElements traversal source output).outcome = .ok pooled)
    (victim : Nat) :
    (cache.pool operator d batch channels extent source victim traversal).2.outcome =
      .ok pooled := by
  have requested : (Request.build ⟨operator, ⟨batch, channels, extent, s.dataType⟩, destination,
      .standard⟩ cache.host).outcome = .ok kernel := built
  rcases fetch_eq_ok faithful requested victim with ⟨entry, fetched, rfl⟩
  have fresh := ran (List.replicate destination.count (Element.lowest d)) List.length_replicate
  simp only [pool, described, fetched, Kernel.runFresh, allocated, fresh]
  rfl

/-- What a kernel gives for some host and options, pooling in one step gives on a full host. -/
theorem pool_after_eq_ok {host : Capabilities} {options : Options}
    (described : operator.destination ⟨batch, channels, extent, s.dataType⟩ d.dataType =
      .ok destination)
    (built : (Kernel.build operator ⟨batch, channels, extent, s.dataType⟩ destination host
      options).outcome = .ok kernel)
    (bounded : Direct.Bounded operator ⟨batch, channels, extent, s.dataType⟩ destination)
    (whole : source.length = batch * channels * extent.height * extent.width)
    {pooled : List (Element d)}
    (defined : Direct.pool operator d batch channels extent source = .ok pooled)
    {traversal : Traversal}
    (visits : traversal.VisitsOnce batch destination.extent.height destination.extent.width)
    (history : List Command) (victim : Nat) :
    (((shared .full).after history).pool operator d batch channels extent source victim
      traversal).2.outcome = .ok pooled := by
  rcases Kernel.exists_build_standard built with ⟨standard, builtStandard⟩
  rcases Kernel.runElements_eq_pool described builtStandard bounded whole with
    ⟨same, definedSame, ran⟩
  rw [defined] at definedSame
  cases definedSame
  rcases bounded.destination_small with ⟨bytes, sized, small⟩
  apply pool_eq_ok (faithful_after (faithful_bounded _ _) history) described
  · rw [host_after]
    exact builtStandard
  · exact Layout.allocation_of_byteSize sized small
  · exact ran traversal visits

end Cache

/-- A kernel built for the output of an operator, whatever the host and the options, gives the list
that the definition of pooling gives when it visits the pixels row by row, and for at least one
image pooling in one step on a full host gives the same list with a shared cache of any history.
Both give it also with any other traversal that visits every pixel once. -/
theorem pooling_agrees {operator : Operator} {s d : ElementType} {batch channels : Nat}
    {extent : Spatial} {destination : Layout} {host : Capabilities} {options : Options}
    {kernel : Kernel}
    (described : operator.destination ⟨batch, channels, extent, s.dataType⟩ d.dataType =
      .ok destination)
    (built : (Kernel.build operator ⟨batch, channels, extent, s.dataType⟩ destination host
      options).outcome = .ok kernel)
    (bounded : Direct.Bounded operator ⟨batch, channels, extent, s.dataType⟩ destination)
    {source : List (Element s)}
    (whole : source.length = batch * channels * extent.height * extent.width) :
    ∃ pooled, Direct.pool operator d batch channels extent source = .ok pooled ∧
      (∀ output : List (Element d), output.length = destination.count →
        (kernel.runElements Traversal.rowMajor source output).outcome = .ok pooled) ∧
      (0 < batch → ∀ (history : List Cache.Command) (victim : Nat),
        (((Cache.shared .full).after history).pool operator d batch channels extent source
          victim).2.outcome = .ok pooled) ∧
      ∀ traversal : Traversal,
        traversal.VisitsOnce batch destination.extent.height destination.extent.width →
          (∀ output : List (Element d), output.length = destination.count →
            (kernel.runElements traversal source output).outcome = .ok pooled) ∧
          ∀ (history : List Cache.Command) (victim : Nat),
            (((Cache.shared .full).after history).pool operator d batch channels extent source
              victim traversal).2.outcome = .ok pooled := by
  rcases Kernel.runElements_eq_pool described built bounded whole with ⟨pooled, defined, ran⟩
  refine ⟨pooled, defined, ran _ (Traversal.visitsOnce_rowMajor _ _ _), ?_, ?_⟩
  · intro batchPos
    have planned := (Kernel.built_of_build built).planned
    have batchEq : destination.batch = batch := planned.suits.batch_eq
    have channelsPos : 0 < destination.channels := by
      rw [planned.suits.channels_eq]
      exact planned.suits.channels_pos
    rcases bounded.destination_small with ⟨bytes, sized, _⟩
    have counted := Layout.count_lt_limit (Layout.byteSize_eq_ok_iff.mp sized).1
    have visits := Layout.visitsOnce_standard (batchEq ▸ batchPos) channelsPos counted
    rw [batchEq] at visits
    exact Cache.pool_after_eq_ok described built bounded whole defined visits
  · intro traversal visits
    exact ⟨ran traversal visits,
      Cache.pool_after_eq_ok described built bounded whole defined visits⟩

/-- Padding before the first row and column leaves windows of one, two, two and four elements; one
of the averages is a tie. -/
theorem pooling_agrees_corner :
    let operator := (Operator.dense .averageExcludingPadding ⟨2, 2⟩).withPaddings ⟨1, 1⟩ ⟨0, 0⟩
    let source := [1, 3, 6, 10].map (Element.clamp .u8)
    let pooled := [1, 2, 4, 5].map (Element.clamp .s32)
    Direct.pool operator .s32 1 1 ⟨2, 2⟩ source = .ok pooled ∧
      ((Cache.shared .full).pool operator .s32 1 1 ⟨2, 2⟩ source 0).2.outcome = .ok pooled ∧
      ((Cache.shared .full).pool operator .s32 1 1 ⟨2, 2⟩ source 0
        Traversal.reversed).2.outcome = .ok pooled := by
  intro operator source pooled
  have described : operator.destination ⟨1, 1, ⟨2, 2⟩, .u8⟩ .s32 = .ok ⟨1, 1, ⟨2, 2⟩, .s32⟩ := by
    cbv
  have built : (Kernel.build operator ⟨1, 1, ⟨2, 2⟩, .u8⟩ ⟨1, 1, ⟨2, 2⟩, .s32⟩ ⟨true, false⟩
      ⟨.force .narrow, 3⟩).outcome =
        .ok ⟨⟨.averageExcludingPadding, 1, 1, ⟨2, 2⟩, ⟨2, 2⟩, ⟨2, 2⟩, ⟨1, 1⟩, ⟨1, 1⟩, .u8, .s32,
          .narrow, 4, 3⟩, ⟨.average .u8 .s32, ⟨1, 2, 3⟩, 4, .narrow⟩⟩ := by cbv
  have bounded : Direct.Bounded operator ⟨1, 1, ⟨2, 2⟩, .u8⟩ ⟨1, 1, ⟨2, 2⟩, .s32⟩ :=
    ⟨by decide, ⟨16, by cbv, by decide⟩, by decide, by decide, by decide⟩
  have computed : Direct.pool operator .s32 1 1 ⟨2, 2⟩ source = .ok pooled := by
    subst operator source pooled
    decide +kernel
  rcases @pooling_agrees operator .u8 .s32 1 1 ⟨2, 2⟩ _ _ _ _ described built bounded source rfl
    with ⟨_, defined, _, fresh, anyOrder⟩
  rw [computed] at defined
  cases defined
  exact ⟨computed, fresh (by decide) [] 0,
    (anyOrder _ (Traversal.visitsOnce_reversed 1 2 2)).2 [] 0⟩

end IntegerPooling
