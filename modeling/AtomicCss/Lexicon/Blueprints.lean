import AtomicCss.Text.Basic

/-!
Contract: the built-in blueprints of templates.

Owns: the tables, one for each shape of blueprint.

Does not own: how a blueprint is filled in and what its shape means.
-/

namespace AtomicCss.Lexicon.Blueprints

/-- Names of templates, each with its blueprint. -/
abbrev Table := List (String × String)

/-- Blueprints that are classes of their own. -/
def classes : Table :=
  [("teaser-lc",
      "cssf--lc_§0--bo_vertical--text-overflow_ellipsis--d_-webkit-box--overflow_hidden"),
   ("c-var", "cssf--c_var-color-§0"),
   ("bg-var", "cssf--bg_var-color-§0"),
   ("bgc-var", "cssf--bgc_var-color-§0"),
   ("bc-var", "cssf--bc_var-color-§0"),
   ("con",
      "cssf--max-width§0px--m_auto--box-sizing_border-box--container-type_inline-size"),
   ("flex-layout",
      "cssf--d_flex--fd_row--fwrap_wrap--jc_start--ac_stretch--ai_stretch" ++
        "--container-type_inline-size"),
   ("fcol20",
      "cssf--f_1_1--flex-basis_fn-calc_100p_chr-slash_5--max-width_fn-calc_100p_chr-slash_4" ++
        "--box-sizing_border-box"),
   ("fcol25",
      "cssf--f_1_1--flex-basis_fn-calc_100p_chr-slash_4--max-width_fn-calc_100p_chr-slash_4" ++
        "--box-sizing_border-box"),
   ("fcol33",
      "cssf--f_1_1--flex-basis_fn-calc_100p_chr-slash_3--max-width_fn-calc_100p_chr-slash_3" ++
        "--box-sizing_border-box"),
   ("fcol50",
      "cssf--f_1_1--flex-basis_fn-calc_100p_chr-slash_2--max-width_fn-calc_100p_chr-slash_2" ++
        "--box-sizing_border-box"),
   ("fcol66",
      "cssf--f_1_1--flex-basis_fn-calc_100p_chr-slash_3_chr-star_2" ++
        "--max-width_fn-calc_100p_chr-slash_2--box-sizing_border-box"),
   ("fcol75",
      "cssf--f_1_1--flex-basis_fn-calc_100p_chr-slash_4_chr-star_3" ++
        "--max-width_fn-calc_100p_chr-slash_2--box-sizing_border-box"),
   ("fcol20gx4",
      "cssf--f_1_1--flex-basis_fn-calc_100p_chr-slash_5_chr-dash§0" ++
        "--max-width_fn-calc_100p_chr-slash_5_chr-dash§0_chr-slash_5_chr-star_4" ++
        "--box-sizing_border-box"),
   ("fcol25gx1",
      "cssf--f_1_1--flex-basis_fn-calc_100p_chr-slash_4_chr-dash§0" ++
        "--max-width_fn-calc_100p_chr-slash_4_chr-dash§0_chr-slash_2_chr-star_1" ++
        "--box-sizing_border-box"),
   ("fcol25gx3",
      "cssf--f_1_1--flex-basis_fn-calc_100p_chr-slash_4_chr-dash§0" ++
        "--max-width_fn-calc_100p_chr-slash_4_chr-dash§0_chr-slash_4_chr-star_3" ++
        "--box-sizing_border-box"),
   ("fcol33gx2",
      "cssf--f_1_1--flex-basis_fn-calc_100p_chr-slash_3_chr-dash§0" ++
        "--max-width_fn-calc_100p_chr-slash_3_chr-dash§0_chr-slash_3_chr-star_2" ++
        "--box-sizing_border-box"),
   ("fcol50gx1",
      "cssf--f_1_1--flex-basis_fn-calc_100p_chr-slash_2_chr-dash§0" ++
        "--max-width_fn-calc_100p_chr-slash_2_chr-dash§0_chr-slash_2_chr-star_1" ++
        "--box-sizing_border-box"),
   ("fcol66gx1",
      "cssf--f_1_1--flex-basis_fn-calc_100p_chr-slash_3_chr-star_2_chr-dash§0" ++
        "--max-width_fn-calc_100p_chr-slash_2_chr-dash§0_chr-slash_2_chr-star_1" ++
        "--box-sizing_border-box"),
   ("fcol75gx1",
      "cssf--f_1_1--flex-basis_fn-calc_100p_chr-slash_4_chr-star_3_chr-dash§0" ++
        "--max-width_fn-calc_100p_chr-slash_2_chr-dash§0_chr-slash_2_chr-star_1" ++
        "--box-sizing_border-box"),
   ("fcol100", "cssf--f_1_1_100p--box-sizing_border-box"),
   ("fcolauto", "cssf--f_1_1_auto--box-sizing_border-box"),
   ("grid-layout",
      "cssf--d_grid" ++
        "--grid-template-columns_tpl-grid-layout-cols-standard_var-layout-gap_var-layout-content" ++
        "_var-layout-outside" ++
        "--val-grid-layout-spacing_tpl-var_val-container-spacing_var-layout-gap" ++
        "--py_fn-calc_var-grid-layout-spacing_chr-slash_2--container-type_inline-size"),
   ("grid-layout-val",
      "cssf--d_grid--grid-template-columns_tpl-grid-layout-cols-standard_§0_§1_§2" ++
        "--grid-template-rows_tpl-grid-layout-rows-standard_§0--container-type_inline-size"),
   ("grid-layout-main-gap",
      "cssf--grid-layout-spacing_tpl-var_val-container-spacing_var-layout-gap" ++
        "--py_fn-calc_var-grid-layout-spacing_chr-slash_2"),
   ("layout-gap", "cssf--gap_var-layout-gap"),
   ("grid-brick-layout",
      "cssf--d_grid--gtc_fn-repeat_12-1fr--gap_var-layout-gap--container-type_inline-size" ++
        "--ai_stretch"),
   ("gcolx", "cssf--gc_span_§0"),
   ("growx", "cssf--gr_span_§0"),
   ("gcolx1", "cssf--gc_span_1"),
   ("gcolx2", "cssf--gc_span_2"),
   ("gcolx3", "cssf--gc_span_3"),
   ("gcolx4", "cssf--gc_span_4"),
   ("gcolx5", "cssf--gc_span_5"),
   ("gcolx6", "cssf--gc_span_6"),
   ("gcolx7", "cssf--gc_span_7"),
   ("gcolx8", "cssf--gc_span_8"),
   ("gcolx9", "cssf--gc_span_9"),
   ("gcolx10", "cssf--gc_span_10"),
   ("gcolx11", "cssf--gc_span_11"),
   ("gcolx12", "cssf--gc_span_12"),
   ("growx1", "cssf--gr_span_1"),
   ("growx2", "cssf--gr_span_2"),
   ("growx3", "cssf--gr_span_3"),
   ("growx4", "cssf--gr_span_4"),
   ("growx5", "cssf--gr_span_5"),
   ("growx6", "cssf--gr_span_6"),
   ("growx7", "cssf--gr_span_7"),
   ("growx8", "cssf--gr_span_8"),
   ("growx9", "cssf--gr_span_9"),
   ("growx10", "cssf--gr_span_10"),
   ("growx11", "cssf--gr_span_11"),
   ("growx12", "cssf--gr_span_12"),
   ("gcol25", "cssf--gc_span_3"),
   ("gcol33", "cssf--gc_span_4"),
   ("gcol50", "cssf--gc_span_6"),
   ("gcol66", "cssf--gc_span_8"),
   ("gcol75", "cssf--gc_span_9"),
   ("gcol100", "cssf--gc_span_12"),
   ("clamp-font-size",
      "cssf--tpl-clamp-size-standard_font-size_var-cfs-font-size_var-cfs-width"),
   ("btn", "cssf--px15--py10--cursor_pointer--brad_3pxrem_solid_var-btn-br-color"),
   ("show",
      "cssf--d_initial--pos_static--h_auto--w_auto--of_visible--clip_auto--ws_normal"),
   ("focus", "cssf--tar-pc-focus"),
   ("before", "cssf--tar-pe-before--content_str-"),
   ("after", "cssf--tar-pe-after--content_str-"),
   ("overlay-background",
      "cssf--pos_fixed--w100dvw--h100dvh--bg_tpl-rgba_0_0_0_50div100--z_-2"),
   ("overlay-foreground",
      "cssf--pos_absolute--bg_tpl-rgba_255_255_255_100div100--z_-1--py40" ++
        "--w_fn-calc_100p_chr-plus_chr-lpar_40pxrem_chr-star_2_chr-rpar"),
   ("overlay-wrapper",
      "cssf--pos_fixed--t50p--l50p--d_flex--transform_tpl-translate_-50p_-50p--jc_center" ++
        "--ai_center"),
   ("center-x", "cssf--pos_absolute--l50p--transform_fn-translateX_n50p"),
   ("center-y", "cssf--pos_absolute--t50p--transform_fn-translateY_n50p"),
   ("msg", "cssf--bgc_hex-§0--p10--bl_4pxrem_solid_hex-§1--mb20--d_block"),
   ("msg-alert", "cssf--tpl-msg_fff4e5_ffa500"),
   ("msg-info", "cssf--tpl-msg_e7f3ff_007bff"),
   ("msg-error", "cssf--tpl-msg_f8d7da_d93025"),
   ("msg-success", "cssf--tpl-msg_d4edda_28a745"),
   ("sans-serif", "cssf--ff_sans-serif"),
   ("serif", "cssf--ff_serif")]

/-- Blueprints that are values or parts of values. -/
def values : Table :=
  [("grid-layout-cols-standard",
      "[full-start] minmax(§0, 1fr) [outside-start] minmax(0, calc((§2 - §1) / 2)) " ++
        "[content-start] min(100% - (§0 * 2), §1) [content-end] minmax(0, calc((§2 - §1) / 2)) " ++
        "[outside-end] minmax(§0, 1fr) [full-end]"),
   ("grid-layout-rows-standard", "auto"),
   ("clamp-size-standard",
      "clamp(1rem, 1rem + calc((§0 - 1rem) / (§1 - 0rem) * 100)vw, §0)"),
   ("rgb", "rgb(§0, §1, §2)"),
   ("rgba", "rgba(§0, §1, §2, §3)"),
   ("hsl", "hsl(§0, §1%, §2%)"),
   ("hsla", "hsla(§0, §1%, §2%, §3)"),
   ("linear", "linear-gradient(§0deg, §1, §2)"),
   ("radial", "radial-gradient(§0, §1)"),
   ("conic", "conic-gradient(§0deg, §1, §2)"),
   ("shadow", "§0px §1px §2px §3"),
   ("inset", "inset §0px §1px §2px §3"),
   ("transform", "transform(§0)"),
   ("translate1", "translate(§0)"),
   ("translate", "translate(§0 §1)"),
   ("translate2", "translate(§0 §1)"),
   ("translate3", "translate(§0 §1 §2)"),
   ("rect", "rect(§0 §1 §2 §3)"),
   ("calc", "calc(§0 §1 §2)"),
   ("var", "var(§0, §1)"),
   ("outline-shadow",
      "-§0 0 0 §1, §0 0 0 §1, 0 -§0 0 §1, 0 §0 0 §1, -§0 -§0 0 §1, §0 -§0 0 §1, " ++
        "-§0 §0 0 §1, §0 §0 0 §1"),
   ("center-margin", "margin: 0 auto"),
   ("flex-1", "flex: 1 1 0%"),
   ("flex-auto", "flex: 1 1 auto"),
   ("flex-initial", "flex: 0 1 auto"),
   ("flex-none", "flex: none"),
   ("aspect-square", "aspect-ratio: 1 / 1"),
   ("aspect-video", "aspect-ratio: 16 / 9"),
   ("aspect-photo", "aspect-ratio: 3 / 2"),
   ("subgrid", "display: subgrid"),
   ("container-query", "container-type: inline-size"),
   ("scroll-snap-x", "scroll-snap-type: x mandatory"),
   ("scroll-snap-y", "scroll-snap-type: y mandatory"),
   ("scroll-smooth", "scroll-behavior: smooth")]

/-- Blueprints that are lists of declarations. -/
def declarations : Table :=
  [("center",
      "position: absolute; top: 50%; left: 50%; transform: translate(-50%, -50%)"),
   ("center-flex", "display: flex; align-items: center; justify-content: center"),
   ("center-grid", "display: grid; place-items: center"),
   ("flex-row", "display: flex; flex-direction: row"),
   ("flex-col", "display: flex; flex-direction: column"),
   ("flex-row-reverse", "display: flex; flex-direction: row-reverse"),
   ("flex-col-reverse", "display: flex; flex-direction: column-reverse"),
   ("flex-wrap", "display: flex; flex-wrap: wrap"),
   ("flex-nowrap", "display: flex; flex-wrap: nowrap"),
   ("flex-wrap-reverse", "display: flex; flex-wrap: wrap-reverse"),
   ("justify-start", "display: flex; justify-content: flex-start"),
   ("justify-end", "display: flex; justify-content: flex-end"),
   ("justify-center", "display: flex; justify-content: center"),
   ("justify-between", "display: flex; justify-content: space-between"),
   ("justify-around", "display: flex; justify-content: space-around"),
   ("justify-evenly", "display: flex; justify-content: space-evenly"),
   ("align-start", "display: flex; align-items: flex-start"),
   ("align-end", "display: flex; align-items: flex-end"),
   ("align-center", "display: flex; align-items: center"),
   ("align-baseline", "display: flex; align-items: baseline"),
   ("align-stretch", "display: flex; align-items: stretch"),
   ("grid-1", "display: grid; grid-template-columns: repeat(1, minmax(0, 1fr))"),
   ("grid-2", "display: grid; grid-template-columns: repeat(2, minmax(0, 1fr))"),
   ("grid-3", "display: grid; grid-template-columns: repeat(3, minmax(0, 1fr))"),
   ("grid-4", "display: grid; grid-template-columns: repeat(4, minmax(0, 1fr))"),
   ("grid-6", "display: grid; grid-template-columns: repeat(6, minmax(0, 1fr))"),
   ("grid-12", "display: grid; grid-template-columns: repeat(12, minmax(0, 1fr))"),
   ("grid-auto-fit",
      "display: grid; grid-template-columns: repeat(auto-fit, minmax(250px, 1fr))"),
   ("grid-auto-fill",
      "display: grid; grid-template-columns: repeat(auto-fill, minmax(250px, 1fr))"),
   ("grid-gap-1", "display: grid; gap: 0.25rem"),
   ("grid-gap-2", "display: grid; gap: 0.5rem"),
   ("grid-gap-3", "display: grid; gap: 0.75rem"),
   ("grid-gap-4", "display: grid; gap: 1rem"),
   ("container-sm", "container-type: inline-size; container-name: sm"),
   ("container-md", "container-type: inline-size; container-name: md"),
   ("container-lg", "container-type: inline-size; container-name: lg"),
   ("container-xl", "container-type: inline-size; container-name: xl"),
   ("hide", "position: absolute; left: -9999px; opacity: 0; pointer-events: none"),
   ("hide-visual",
      "clip: rect(0, 0, 0, 0); position: absolute; white-space: nowrap; width: 1px; " ++
        "height: 1px; overflow: hidden; border: 0; padding: 0; clip-path: inset(50%); " ++
        "margin: -1px"),
   ("full-width", "width: 100vw; margin-left: calc(50% - 50vw)"),
   ("btn-reset",
      "border: none; background: none; padding: 0; margin: 0; cursor: pointer"),
   ("input-reset", "border: none; outline: none; background: transparent"),
   ("focus-ring", "outline: 2px solid currentColor; outline-offset: 2px"),
   ("stack", "display: flex; flex-direction: column; gap: 1rem"),
   ("cluster", "display: flex; flex-wrap: wrap; gap: 1rem"),
   ("sidebar", "display: flex; flex-wrap: wrap; gap: 1rem"),
   ("switcher", "display: flex; flex-wrap: wrap; gap: 1rem"),
   ("cover", "display: flex; flex-direction: column; min-height: 100vh"),
   ("hyphens",
      "hyphens: auto; hyphenate-limit-chars: 6 4 4; hyphenate-limit-lines: 2; " ++
        "hyphenate-character: \"-\"; word-break: normal"),
   ("line-clamp",
      "line-clamp: §0; -webkit-line-clamp: §0; -webkit-box-orient: vertical; overflow: hidden; " ++
        "display: -webkit-box")]

/-- The built-in blueprints as texts. -/
def texts : List (Text × Text) :=
  (classes ++ values ++ declarations).map fun entry => (entry.1.toList, entry.2.toList)

end AtomicCss.Lexicon.Blueprints
