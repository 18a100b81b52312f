/-! The named character references of HTML. Those of Latin-1 are read with or without a semicolon at
their end, the others need it. -/

namespace MarkupModule.Markup

/-- The names that begin with a letter, as they are written behind the ampersand, with the code points
that they stand for. They are in falling order, so that a name comes after all that it begins and the
first name that a text begins with is the longest one. -/
def referenceNames : Char → List (String × List Nat)
  | 'A' => [
    ("Auml;", [0xc4]), ("Auml", [0xc4]), ("Atilde;", [0xc3]), ("Atilde", [0xc3]), ("Assign;", [0x2254]),
    ("Ascr;", [0x1d49c]), ("Aring;", [0xc5]), ("Aring", [0xc5]), ("ApplyFunction;", [0x2061]),
    ("Aopf;", [0x1d538]), ("Aogon;", [0x104]), ("And;", [0x2a53]), ("Amacr;", [0x100]),
    ("Alpha;", [0x391]), ("Agrave;", [0xc0]), ("Agrave", [0xc0]), ("Afr;", [0x1d504]),
    ("Acy;", [0x410]), ("Acirc;", [0xc2]), ("Acirc", [0xc2]), ("Abreve;", [0x102]), ("Aacute;", [0xc1]),
    ("Aacute", [0xc1]), ("AMP;", [0x26]), ("AMP", [0x26]), ("AElig;", [0xc6]), ("AElig", [0xc6])]
  | 'B' => [
    ("Bumpeq;", [0x224e]), ("Bscr;", [0x212c]), ("Breve;", [0x2d8]), ("Bopf;", [0x1d539]),
    ("Bfr;", [0x1d505]), ("Beta;", [0x392]), ("Bernoullis;", [0x212c]), ("Because;", [0x2235]),
    ("Bcy;", [0x411]), ("Barwed;", [0x2306]), ("Barv;", [0x2ae7]), ("Backslash;", [0x2216])]
  | 'C' => [
    ("CupCap;", [0x224d]), ("Cup;", [0x22d3]), ("Cscr;", [0x1d49e]), ("Cross;", [0x2a2f]),
    ("CounterClockwiseContourIntegral;", [0x2233]), ("Coproduct;", [0x2210]), ("Copf;", [0x2102]),
    ("ContourIntegral;", [0x222e]), ("Conint;", [0x222f]), ("Congruent;", [0x2261]),
    ("Colone;", [0x2a74]), ("Colon;", [0x2237]), ("CloseCurlyQuote;", [0x2019]),
    ("CloseCurlyDoubleQuote;", [0x201d]), ("ClockwiseContourIntegral;", [0x2232]),
    ("CircleTimes;", [0x2297]), ("CirclePlus;", [0x2295]), ("CircleMinus;", [0x2296]),
    ("CircleDot;", [0x2299]), ("Chi;", [0x3a7]), ("Cfr;", [0x212d]), ("CenterDot;", [0xb7]),
    ("Cedilla;", [0xb8]), ("Cdot;", [0x10a]), ("Cconint;", [0x2230]), ("Ccirc;", [0x108]),
    ("Ccedil;", [0xc7]), ("Ccedil", [0xc7]), ("Ccaron;", [0x10c]), ("Cayleys;", [0x212d]),
    ("CapitalDifferentialD;", [0x2145]), ("Cap;", [0x22d2]), ("Cacute;", [0x106]), ("COPY;", [0xa9]),
    ("COPY", [0xa9]), ("CHcy;", [0x427])]
  | 'D' => [
    ("Dstrok;", [0x110]), ("Dscr;", [0x1d49f]), ("Downarrow;", [0x21d3]), ("DownTeeArrow;", [0x21a7]),
    ("DownTee;", [0x22a4]), ("DownRightVectorBar;", [0x2957]), ("DownRightVector;", [0x21c1]),
    ("DownRightTeeVector;", [0x295f]), ("DownLeftVectorBar;", [0x2956]), ("DownLeftVector;", [0x21bd]),
    ("DownLeftTeeVector;", [0x295e]), ("DownLeftRightVector;", [0x2950]), ("DownBreve;", [0x311]),
    ("DownArrowUpArrow;", [0x21f5]), ("DownArrowBar;", [0x2913]), ("DownArrow;", [0x2193]),
    ("DoubleVerticalBar;", [0x2225]), ("DoubleUpDownArrow;", [0x21d5]), ("DoubleUpArrow;", [0x21d1]),
    ("DoubleRightTee;", [0x22a8]), ("DoubleRightArrow;", [0x21d2]), ("DoubleLongRightArrow;", [0x27f9]),
    ("DoubleLongLeftRightArrow;", [0x27fa]), ("DoubleLongLeftArrow;", [0x27f8]),
    ("DoubleLeftTee;", [0x2ae4]), ("DoubleLeftRightArrow;", [0x21d4]), ("DoubleLeftArrow;", [0x21d0]),
    ("DoubleDownArrow;", [0x21d3]), ("DoubleDot;", [0xa8]), ("DoubleContourIntegral;", [0x222f]),
    ("DotEqual;", [0x2250]), ("DotDot;", [0x20dc]), ("Dot;", [0xa8]), ("Dopf;", [0x1d53b]),
    ("DifferentialD;", [0x2146]), ("Diamond;", [0x22c4]), ("DiacriticalTilde;", [0x2dc]),
    ("DiacriticalGrave;", [0x60]), ("DiacriticalDoubleAcute;", [0x2dd]), ("DiacriticalDot;", [0x2d9]),
    ("DiacriticalAcute;", [0xb4]), ("Dfr;", [0x1d507]), ("Delta;", [0x394]), ("Del;", [0x2207]),
    ("Dcy;", [0x414]), ("Dcaron;", [0x10e]), ("Dashv;", [0x2ae4]), ("Darr;", [0x21a1]),
    ("Dagger;", [0x2021]), ("DZcy;", [0x40f]), ("DScy;", [0x405]), ("DJcy;", [0x402]),
    ("DDotrahd;", [0x2911]), ("DD;", [0x2145])]
  | 'E' => [
    ("ExponentialE;", [0x2147]), ("Exists;", [0x2203]), ("Euml;", [0xcb]), ("Euml", [0xcb]),
    ("Eta;", [0x397]), ("Esim;", [0x2a73]), ("Escr;", [0x2130]), ("Equilibrium;", [0x21cc]),
    ("EqualTilde;", [0x2242]), ("Equal;", [0x2a75]), ("Epsilon;", [0x395]), ("Eopf;", [0x1d53c]),
    ("Eogon;", [0x118]), ("EmptyVerySmallSquare;", [0x25ab]), ("EmptySmallSquare;", [0x25fb]),
    ("Emacr;", [0x112]), ("Element;", [0x2208]), ("Egrave;", [0xc8]), ("Egrave", [0xc8]),
    ("Efr;", [0x1d508]), ("Edot;", [0x116]), ("Ecy;", [0x42d]), ("Ecirc;", [0xca]), ("Ecirc", [0xca]),
    ("Ecaron;", [0x11a]), ("Eacute;", [0xc9]), ("Eacute", [0xc9]), ("ETH;", [0xd0]), ("ETH", [0xd0]),
    ("ENG;", [0x14a])]
  | 'F' => [
    ("Fscr;", [0x2131]), ("Fouriertrf;", [0x2131]), ("ForAll;", [0x2200]), ("Fopf;", [0x1d53d]),
    ("FilledVerySmallSquare;", [0x25aa]), ("FilledSmallSquare;", [0x25fc]), ("Ffr;", [0x1d509]),
    ("Fcy;", [0x424])]
  | 'G' => [
    ("Gt;", [0x226b]), ("Gscr;", [0x1d4a2]), ("GreaterTilde;", [0x2273]),
    ("GreaterSlantEqual;", [0x2a7e]), ("GreaterLess;", [0x2277]), ("GreaterGreater;", [0x2aa2]),
    ("GreaterFullEqual;", [0x2267]), ("GreaterEqualLess;", [0x22db]), ("GreaterEqual;", [0x2265]),
    ("Gopf;", [0x1d53e]), ("Gg;", [0x22d9]), ("Gfr;", [0x1d50a]), ("Gdot;", [0x120]), ("Gcy;", [0x413]),
    ("Gcirc;", [0x11c]), ("Gcedil;", [0x122]), ("Gbreve;", [0x11e]), ("Gammad;", [0x3dc]),
    ("Gamma;", [0x393]), ("GT;", [0x3e]), ("GT", [0x3e]), ("GJcy;", [0x403])]
  | 'H' => [
    ("HumpEqual;", [0x224f]), ("HumpDownHump;", [0x224e]), ("Hstrok;", [0x126]), ("Hscr;", [0x210b]),
    ("HorizontalLine;", [0x2500]), ("Hopf;", [0x210d]), ("HilbertSpace;", [0x210b]), ("Hfr;", [0x210c]),
    ("Hcirc;", [0x124]), ("Hat;", [0x5e]), ("Hacek;", [0x2c7]), ("HARDcy;", [0x42a])]
  | 'I' => [
    ("Iuml;", [0xcf]), ("Iuml", [0xcf]), ("Iukcy;", [0x406]), ("Itilde;", [0x128]), ("Iscr;", [0x2110]),
    ("Iota;", [0x399]), ("Iopf;", [0x1d540]), ("Iogon;", [0x12e]), ("InvisibleTimes;", [0x2062]),
    ("InvisibleComma;", [0x2063]), ("Intersection;", [0x22c2]), ("Integral;", [0x222b]),
    ("Int;", [0x222c]), ("Implies;", [0x21d2]), ("ImaginaryI;", [0x2148]), ("Imacr;", [0x12a]),
    ("Im;", [0x2111]), ("Igrave;", [0xcc]), ("Igrave", [0xcc]), ("Ifr;", [0x2111]), ("Idot;", [0x130]),
    ("Icy;", [0x418]), ("Icirc;", [0xce]), ("Icirc", [0xce]), ("Iacute;", [0xcd]), ("Iacute", [0xcd]),
    ("IOcy;", [0x401]), ("IJlig;", [0x132]), ("IEcy;", [0x415])]
  | 'J' => [
    ("Jukcy;", [0x404]), ("Jsercy;", [0x408]), ("Jscr;", [0x1d4a5]), ("Jopf;", [0x1d541]),
    ("Jfr;", [0x1d50d]), ("Jcy;", [0x419]), ("Jcirc;", [0x134])]
  | 'K' => [
    ("Kscr;", [0x1d4a6]), ("Kopf;", [0x1d542]), ("Kfr;", [0x1d50e]), ("Kcy;", [0x41a]),
    ("Kcedil;", [0x136]), ("Kappa;", [0x39a]), ("KJcy;", [0x40c]), ("KHcy;", [0x425])]
  | 'L' => [
    ("Lt;", [0x226a]), ("Lstrok;", [0x141]), ("Lsh;", [0x21b0]), ("Lscr;", [0x2112]),
    ("LowerRightArrow;", [0x2198]), ("LowerLeftArrow;", [0x2199]), ("Lopf;", [0x1d543]),
    ("Longrightarrow;", [0x27f9]), ("Longleftrightarrow;", [0x27fa]), ("Longleftarrow;", [0x27f8]),
    ("LongRightArrow;", [0x27f6]), ("LongLeftRightArrow;", [0x27f7]), ("LongLeftArrow;", [0x27f5]),
    ("Lmidot;", [0x13f]), ("Lleftarrow;", [0x21da]), ("Ll;", [0x22d8]), ("Lfr;", [0x1d50f]),
    ("LessTilde;", [0x2272]), ("LessSlantEqual;", [0x2a7d]), ("LessLess;", [0x2aa1]),
    ("LessGreater;", [0x2276]), ("LessFullEqual;", [0x2266]), ("LessEqualGreater;", [0x22da]),
    ("Leftrightarrow;", [0x21d4]), ("Leftarrow;", [0x21d0]), ("LeftVectorBar;", [0x2952]),
    ("LeftVector;", [0x21bc]), ("LeftUpVectorBar;", [0x2958]), ("LeftUpVector;", [0x21bf]),
    ("LeftUpTeeVector;", [0x2960]), ("LeftUpDownVector;", [0x2951]), ("LeftTriangleEqual;", [0x22b4]),
    ("LeftTriangleBar;", [0x29cf]), ("LeftTriangle;", [0x22b2]), ("LeftTeeVector;", [0x295a]),
    ("LeftTeeArrow;", [0x21a4]), ("LeftTee;", [0x22a3]), ("LeftRightVector;", [0x294e]),
    ("LeftRightArrow;", [0x2194]), ("LeftFloor;", [0x230a]), ("LeftDownVectorBar;", [0x2959]),
    ("LeftDownVector;", [0x21c3]), ("LeftDownTeeVector;", [0x2961]), ("LeftDoubleBracket;", [0x27e6]),
    ("LeftCeiling;", [0x2308]), ("LeftArrowRightArrow;", [0x21c6]), ("LeftArrowBar;", [0x21e4]),
    ("LeftArrow;", [0x2190]), ("LeftAngleBracket;", [0x27e8]), ("Lcy;", [0x41b]), ("Lcedil;", [0x13b]),
    ("Lcaron;", [0x13d]), ("Larr;", [0x219e]), ("Laplacetrf;", [0x2112]), ("Lang;", [0x27ea]),
    ("Lambda;", [0x39b]), ("Lacute;", [0x139]), ("LT;", [0x3c]), ("LT", [0x3c]), ("LJcy;", [0x409])]
  | 'M' => [
    ("Mu;", [0x39c]), ("Mscr;", [0x2133]), ("Mopf;", [0x1d544]), ("MinusPlus;", [0x2213]),
    ("Mfr;", [0x1d510]), ("Mellintrf;", [0x2133]), ("MediumSpace;", [0x205f]), ("Mcy;", [0x41c]),
    ("Map;", [0x2905])]
  | 'N' => [
    ("Nu;", [0x39d]), ("Ntilde;", [0xd1]), ("Ntilde", [0xd1]), ("Nscr;", [0x1d4a9]),
    ("NotVerticalBar;", [0x2224]), ("NotTildeTilde;", [0x2249]), ("NotTildeFullEqual;", [0x2247]),
    ("NotTildeEqual;", [0x2244]), ("NotTilde;", [0x2241]), ("NotSupersetEqual;", [0x2289]),
    ("NotSuperset;", [0x2283, 0x20d2]), ("NotSucceedsTilde;", [0x227f, 0x338]),
    ("NotSucceedsSlantEqual;", [0x22e1]), ("NotSucceedsEqual;", [0x2ab0, 0x338]),
    ("NotSucceeds;", [0x2281]), ("NotSubsetEqual;", [0x2288]), ("NotSubset;", [0x2282, 0x20d2]),
    ("NotSquareSupersetEqual;", [0x22e3]), ("NotSquareSuperset;", [0x2290, 0x338]),
    ("NotSquareSubsetEqual;", [0x22e2]), ("NotSquareSubset;", [0x228f, 0x338]),
    ("NotRightTriangleEqual;", [0x22ed]), ("NotRightTriangleBar;", [0x29d0, 0x338]),
    ("NotRightTriangle;", [0x22eb]), ("NotReverseElement;", [0x220c]),
    ("NotPrecedesSlantEqual;", [0x22e0]), ("NotPrecedesEqual;", [0x2aaf, 0x338]),
    ("NotPrecedes;", [0x2280]), ("NotNestedLessLess;", [0x2aa1, 0x338]),
    ("NotNestedGreaterGreater;", [0x2aa2, 0x338]), ("NotLessTilde;", [0x2274]),
    ("NotLessSlantEqual;", [0x2a7d, 0x338]), ("NotLessLess;", [0x226a, 0x338]),
    ("NotLessGreater;", [0x2278]), ("NotLessEqual;", [0x2270]), ("NotLess;", [0x226e]),
    ("NotLeftTriangleEqual;", [0x22ec]), ("NotLeftTriangleBar;", [0x29cf, 0x338]),
    ("NotLeftTriangle;", [0x22ea]), ("NotHumpEqual;", [0x224f, 0x338]),
    ("NotHumpDownHump;", [0x224e, 0x338]), ("NotGreaterTilde;", [0x2275]),
    ("NotGreaterSlantEqual;", [0x2a7e, 0x338]), ("NotGreaterLess;", [0x2279]),
    ("NotGreaterGreater;", [0x226b, 0x338]), ("NotGreaterFullEqual;", [0x2267, 0x338]),
    ("NotGreaterEqual;", [0x2271]), ("NotGreater;", [0x226f]), ("NotExists;", [0x2204]),
    ("NotEqualTilde;", [0x2242, 0x338]), ("NotEqual;", [0x2260]), ("NotElement;", [0x2209]),
    ("NotDoubleVerticalBar;", [0x2226]), ("NotCupCap;", [0x226d]), ("NotCongruent;", [0x2262]),
    ("Not;", [0x2aec]), ("Nopf;", [0x2115]), ("NonBreakingSpace;", [0xa0]), ("NoBreak;", [0x2060]),
    ("Nfr;", [0x1d511]), ("NewLine;", [0xa]), ("NestedLessLess;", [0x226a]),
    ("NestedGreaterGreater;", [0x226b]), ("NegativeVeryThinSpace;", [0x200b]),
    ("NegativeThinSpace;", [0x200b]), ("NegativeThickSpace;", [0x200b]),
    ("NegativeMediumSpace;", [0x200b]), ("Ncy;", [0x41d]), ("Ncedil;", [0x145]), ("Ncaron;", [0x147]),
    ("Nacute;", [0x143]), ("NJcy;", [0x40a])]
  | 'O' => [
    ("OverParenthesis;", [0x23dc]), ("OverBracket;", [0x23b4]), ("OverBrace;", [0x23de]),
    ("OverBar;", [0x203e]), ("Ouml;", [0xd6]), ("Ouml", [0xd6]), ("Otimes;", [0x2a37]),
    ("Otilde;", [0xd5]), ("Otilde", [0xd5]), ("Oslash;", [0xd8]), ("Oslash", [0xd8]),
    ("Oscr;", [0x1d4aa]), ("Or;", [0x2a54]), ("OpenCurlyQuote;", [0x2018]),
    ("OpenCurlyDoubleQuote;", [0x201c]), ("Oopf;", [0x1d546]), ("Omicron;", [0x39f]),
    ("Omega;", [0x3a9]), ("Omacr;", [0x14c]), ("Ograve;", [0xd2]), ("Ograve", [0xd2]),
    ("Ofr;", [0x1d512]), ("Odblac;", [0x150]), ("Ocy;", [0x41e]), ("Ocirc;", [0xd4]), ("Ocirc", [0xd4]),
    ("Oacute;", [0xd3]), ("Oacute", [0xd3]), ("OElig;", [0x152])]
  | 'P' => [
    ("Psi;", [0x3a8]), ("Pscr;", [0x1d4ab]), ("Proportional;", [0x221d]), ("Proportion;", [0x2237]),
    ("Product;", [0x220f]), ("Prime;", [0x2033]), ("PrecedesTilde;", [0x227e]),
    ("PrecedesSlantEqual;", [0x227c]), ("PrecedesEqual;", [0x2aaf]), ("Precedes;", [0x227a]),
    ("Pr;", [0x2abb]), ("Popf;", [0x2119]), ("Poincareplane;", [0x210c]), ("PlusMinus;", [0xb1]),
    ("Pi;", [0x3a0]), ("Phi;", [0x3a6]), ("Pfr;", [0x1d513]), ("Pcy;", [0x41f]),
    ("PartialD;", [0x2202])]
  | 'Q' => [
    ("Qscr;", [0x1d4ac]), ("Qopf;", [0x211a]), ("Qfr;", [0x1d514]), ("QUOT;", [0x22]), ("QUOT", [0x22])]
  | 'R' => [
    ("RuleDelayed;", [0x29f4]), ("Rsh;", [0x21b1]), ("Rscr;", [0x211b]), ("Rrightarrow;", [0x21db]),
    ("RoundImplies;", [0x2970]), ("Ropf;", [0x211d]), ("Rightarrow;", [0x21d2]),
    ("RightVectorBar;", [0x2953]), ("RightVector;", [0x21c0]), ("RightUpVectorBar;", [0x2954]),
    ("RightUpVector;", [0x21be]), ("RightUpTeeVector;", [0x295c]), ("RightUpDownVector;", [0x294f]),
    ("RightTriangleEqual;", [0x22b5]), ("RightTriangleBar;", [0x29d0]), ("RightTriangle;", [0x22b3]),
    ("RightTeeVector;", [0x295b]), ("RightTeeArrow;", [0x21a6]), ("RightTee;", [0x22a2]),
    ("RightFloor;", [0x230b]), ("RightDownVectorBar;", [0x2955]), ("RightDownVector;", [0x21c2]),
    ("RightDownTeeVector;", [0x295d]), ("RightDoubleBracket;", [0x27e7]), ("RightCeiling;", [0x2309]),
    ("RightArrowLeftArrow;", [0x21c4]), ("RightArrowBar;", [0x21e5]), ("RightArrow;", [0x2192]),
    ("RightAngleBracket;", [0x27e9]), ("Rho;", [0x3a1]), ("Rfr;", [0x211c]),
    ("ReverseUpEquilibrium;", [0x296f]), ("ReverseEquilibrium;", [0x21cb]),
    ("ReverseElement;", [0x220b]), ("Re;", [0x211c]), ("Rcy;", [0x420]), ("Rcedil;", [0x156]),
    ("Rcaron;", [0x158]), ("Rarrtl;", [0x2916]), ("Rarr;", [0x21a0]), ("Rang;", [0x27eb]),
    ("Racute;", [0x154]), ("REG;", [0xae]), ("REG", [0xae]), ("RBarr;", [0x2910])]
  | 'S' => [
    ("Supset;", [0x22d1]), ("SupersetEqual;", [0x2287]), ("Superset;", [0x2283]), ("Sup;", [0x22d1]),
    ("Sum;", [0x2211]), ("SuchThat;", [0x220b]), ("SucceedsTilde;", [0x227f]),
    ("SucceedsSlantEqual;", [0x227d]), ("SucceedsEqual;", [0x2ab0]), ("Succeeds;", [0x227b]),
    ("SubsetEqual;", [0x2286]), ("Subset;", [0x22d0]), ("Sub;", [0x22d0]), ("Star;", [0x22c6]),
    ("Sscr;", [0x1d4ae]), ("SquareUnion;", [0x2294]), ("SquareSupersetEqual;", [0x2292]),
    ("SquareSuperset;", [0x2290]), ("SquareSubsetEqual;", [0x2291]), ("SquareSubset;", [0x228f]),
    ("SquareIntersection;", [0x2293]), ("Square;", [0x25a1]), ("Sqrt;", [0x221a]), ("Sopf;", [0x1d54a]),
    ("SmallCircle;", [0x2218]), ("Sigma;", [0x3a3]), ("ShortUpArrow;", [0x2191]),
    ("ShortRightArrow;", [0x2192]), ("ShortLeftArrow;", [0x2190]), ("ShortDownArrow;", [0x2193]),
    ("Sfr;", [0x1d516]), ("Scy;", [0x421]), ("Scirc;", [0x15c]), ("Scedil;", [0x15e]),
    ("Scaron;", [0x160]), ("Sc;", [0x2abc]), ("Sacute;", [0x15a]), ("SOFTcy;", [0x42c]),
    ("SHcy;", [0x428]), ("SHCHcy;", [0x429])]
  | 'T' => [
    ("Tstrok;", [0x166]), ("Tscr;", [0x1d4af]), ("TripleDot;", [0x20db]), ("Topf;", [0x1d54b]),
    ("TildeTilde;", [0x2248]), ("TildeFullEqual;", [0x2245]), ("TildeEqual;", [0x2243]),
    ("Tilde;", [0x223c]), ("ThinSpace;", [0x2009]), ("ThickSpace;", [0x205f, 0x200a]),
    ("Theta;", [0x398]), ("Therefore;", [0x2234]), ("Tfr;", [0x1d517]), ("Tcy;", [0x422]),
    ("Tcedil;", [0x162]), ("Tcaron;", [0x164]), ("Tau;", [0x3a4]), ("Tab;", [0x9]), ("TScy;", [0x426]),
    ("TSHcy;", [0x40b]), ("TRADE;", [0x2122]), ("THORN;", [0xde]), ("THORN", [0xde])]
  | 'U' => [
    ("Uuml;", [0xdc]), ("Uuml", [0xdc]), ("Utilde;", [0x168]), ("Uscr;", [0x1d4b0]),
    ("Uring;", [0x16e]), ("Upsilon;", [0x3a5]), ("Upsi;", [0x3d2]), ("UpperRightArrow;", [0x2197]),
    ("UpperLeftArrow;", [0x2196]), ("Updownarrow;", [0x21d5]), ("Uparrow;", [0x21d1]),
    ("UpTeeArrow;", [0x21a5]), ("UpTee;", [0x22a5]), ("UpEquilibrium;", [0x296e]),
    ("UpDownArrow;", [0x2195]), ("UpArrowDownArrow;", [0x21c5]), ("UpArrowBar;", [0x2912]),
    ("UpArrow;", [0x2191]), ("Uopf;", [0x1d54c]), ("Uogon;", [0x172]), ("UnionPlus;", [0x228e]),
    ("Union;", [0x22c3]), ("UnderParenthesis;", [0x23dd]), ("UnderBracket;", [0x23b5]),
    ("UnderBrace;", [0x23df]), ("UnderBar;", [0x5f]), ("Umacr;", [0x16a]), ("Ugrave;", [0xd9]),
    ("Ugrave", [0xd9]), ("Ufr;", [0x1d518]), ("Udblac;", [0x170]), ("Ucy;", [0x423]),
    ("Ucirc;", [0xdb]), ("Ucirc", [0xdb]), ("Ubreve;", [0x16c]), ("Ubrcy;", [0x40e]),
    ("Uarrocir;", [0x2949]), ("Uarr;", [0x219f]), ("Uacute;", [0xda]), ("Uacute", [0xda])]
  | 'V' => [
    ("Vvdash;", [0x22aa]), ("Vscr;", [0x1d4b1]), ("Vopf;", [0x1d54d]), ("Vfr;", [0x1d519]),
    ("VeryThinSpace;", [0x200a]), ("VerticalTilde;", [0x2240]), ("VerticalSeparator;", [0x2758]),
    ("VerticalLine;", [0x7c]), ("VerticalBar;", [0x2223]), ("Vert;", [0x2016]), ("Verbar;", [0x2016]),
    ("Vee;", [0x22c1]), ("Vdashl;", [0x2ae6]), ("Vdash;", [0x22a9]), ("Vcy;", [0x412]),
    ("Vbar;", [0x2aeb]), ("VDash;", [0x22ab])]
  | 'W' => [
    ("Wscr;", [0x1d4b2]), ("Wopf;", [0x1d54e]), ("Wfr;", [0x1d51a]), ("Wedge;", [0x22c0]),
    ("Wcirc;", [0x174])]
  | 'X' => [
    ("Xscr;", [0x1d4b3]), ("Xopf;", [0x1d54f]), ("Xi;", [0x39e]), ("Xfr;", [0x1d51b])]
  | 'Y' => [
    ("Yuml;", [0x178]), ("Yscr;", [0x1d4b4]), ("Yopf;", [0x1d550]), ("Yfr;", [0x1d51c]),
    ("Ycy;", [0x42b]), ("Ycirc;", [0x176]), ("Yacute;", [0xdd]), ("Yacute", [0xdd]), ("YUcy;", [0x42e]),
    ("YIcy;", [0x407]), ("YAcy;", [0x42f])]
  | 'Z' => [
    ("Zscr;", [0x1d4b5]), ("Zopf;", [0x2124]), ("Zfr;", [0x2128]), ("Zeta;", [0x396]),
    ("ZeroWidthSpace;", [0x200b]), ("Zdot;", [0x17b]), ("Zcy;", [0x417]), ("Zcaron;", [0x17d]),
    ("Zacute;", [0x179]), ("ZHcy;", [0x416])]
  | 'a' => [
    ("awint;", [0x2a11]), ("awconint;", [0x2233]), ("auml;", [0xe4]), ("auml", [0xe4]),
    ("atilde;", [0xe3]), ("atilde", [0xe3]), ("asympeq;", [0x224d]), ("asymp;", [0x2248]),
    ("ast;", [0x2a]), ("ascr;", [0x1d4b6]), ("aring;", [0xe5]), ("aring", [0xe5]),
    ("approxeq;", [0x224a]), ("approx;", [0x2248]), ("apos;", [0x27]), ("apid;", [0x224b]),
    ("ape;", [0x224a]), ("apacir;", [0x2a6f]), ("apE;", [0x2a70]), ("ap;", [0x2248]),
    ("aopf;", [0x1d552]), ("aogon;", [0x105]), ("angzarr;", [0x237c]), ("angst;", [0xc5]),
    ("angsph;", [0x2222]), ("angrtvbd;", [0x299d]), ("angrtvb;", [0x22be]), ("angrt;", [0x221f]),
    ("angmsdah;", [0x29af]), ("angmsdag;", [0x29ae]), ("angmsdaf;", [0x29ad]), ("angmsdae;", [0x29ac]),
    ("angmsdad;", [0x29ab]), ("angmsdac;", [0x29aa]), ("angmsdab;", [0x29a9]), ("angmsdaa;", [0x29a8]),
    ("angmsd;", [0x2221]), ("angle;", [0x2220]), ("ange;", [0x29a4]), ("ang;", [0x2220]),
    ("andv;", [0x2a5a]), ("andslope;", [0x2a58]), ("andd;", [0x2a5c]), ("andand;", [0x2a55]),
    ("and;", [0x2227]), ("amp;", [0x26]), ("amp", [0x26]), ("amalg;", [0x2a3f]), ("amacr;", [0x101]),
    ("alpha;", [0x3b1]), ("aleph;", [0x2135]), ("alefsym;", [0x2135]), ("agrave;", [0xe0]),
    ("agrave", [0xe0]), ("afr;", [0x1d51e]), ("af;", [0x2061]), ("aelig;", [0xe6]), ("aelig", [0xe6]),
    ("acy;", [0x430]), ("acute;", [0xb4]), ("acute", [0xb4]), ("acirc;", [0xe2]), ("acirc", [0xe2]),
    ("acd;", [0x223f]), ("acE;", [0x223e, 0x333]), ("ac;", [0x223e]), ("abreve;", [0x103]),
    ("aacute;", [0xe1]), ("aacute", [0xe1])]
  | 'b' => [
    ("bumpeq;", [0x224f]), ("bumpe;", [0x224f]), ("bumpE;", [0x2aae]), ("bump;", [0x224e]),
    ("bullet;", [0x2022]), ("bull;", [0x2022]), ("bsolhsub;", [0x27c8]), ("bsolb;", [0x29c5]),
    ("bsol;", [0x5c]), ("bsime;", [0x22cd]), ("bsim;", [0x223d]), ("bsemi;", [0x204f]),
    ("bscr;", [0x1d4b7]), ("brvbar;", [0xa6]), ("brvbar", [0xa6]), ("breve;", [0x2d8]),
    ("bprime;", [0x2035]), ("boxvr;", [0x251c]), ("boxvl;", [0x2524]), ("boxvh;", [0x253c]),
    ("boxvR;", [0x255e]), ("boxvL;", [0x2561]), ("boxvH;", [0x256a]), ("boxv;", [0x2502]),
    ("boxur;", [0x2514]), ("boxul;", [0x2518]), ("boxuR;", [0x2558]), ("boxuL;", [0x255b]),
    ("boxtimes;", [0x22a0]), ("boxplus;", [0x229e]), ("boxminus;", [0x229f]), ("boxhu;", [0x2534]),
    ("boxhd;", [0x252c]), ("boxhU;", [0x2568]), ("boxhD;", [0x2565]), ("boxh;", [0x2500]),
    ("boxdr;", [0x250c]), ("boxdl;", [0x2510]), ("boxdR;", [0x2552]), ("boxdL;", [0x2555]),
    ("boxbox;", [0x29c9]), ("boxVr;", [0x255f]), ("boxVl;", [0x2562]), ("boxVh;", [0x256b]),
    ("boxVR;", [0x2560]), ("boxVL;", [0x2563]), ("boxVH;", [0x256c]), ("boxV;", [0x2551]),
    ("boxUr;", [0x2559]), ("boxUl;", [0x255c]), ("boxUR;", [0x255a]), ("boxUL;", [0x255d]),
    ("boxHu;", [0x2567]), ("boxHd;", [0x2564]), ("boxHU;", [0x2569]), ("boxHD;", [0x2566]),
    ("boxH;", [0x2550]), ("boxDr;", [0x2553]), ("boxDl;", [0x2556]), ("boxDR;", [0x2554]),
    ("boxDL;", [0x2557]), ("bowtie;", [0x22c8]), ("bottom;", [0x22a5]), ("bot;", [0x22a5]),
    ("bopf;", [0x1d553]), ("bnot;", [0x2310]), ("bnequiv;", [0x2261, 0x20e5]), ("bne;", [0x3d, 0x20e5]),
    ("block;", [0x2588]), ("blk34;", [0x2593]), ("blk14;", [0x2591]), ("blk12;", [0x2592]),
    ("blank;", [0x2423]), ("blacktriangleright;", [0x25b8]), ("blacktriangleleft;", [0x25c2]),
    ("blacktriangledown;", [0x25be]), ("blacktriangle;", [0x25b4]), ("blacksquare;", [0x25aa]),
    ("blacklozenge;", [0x29eb]), ("bkarow;", [0x290d]), ("bigwedge;", [0x22c0]), ("bigvee;", [0x22c1]),
    ("biguplus;", [0x2a04]), ("bigtriangleup;", [0x25b3]), ("bigtriangledown;", [0x25bd]),
    ("bigstar;", [0x2605]), ("bigsqcup;", [0x2a06]), ("bigotimes;", [0x2a02]), ("bigoplus;", [0x2a01]),
    ("bigodot;", [0x2a00]), ("bigcup;", [0x22c3]), ("bigcirc;", [0x25ef]), ("bigcap;", [0x22c2]),
    ("bfr;", [0x1d51f]), ("between;", [0x226c]), ("beth;", [0x2136]), ("beta;", [0x3b2]),
    ("bernou;", [0x212c]), ("bepsi;", [0x3f6]), ("bemptyv;", [0x29b0]), ("because;", [0x2235]),
    ("becaus;", [0x2235]), ("bdquo;", [0x201e]), ("bcy;", [0x431]), ("bcong;", [0x224c]),
    ("bbrktbrk;", [0x23b6]), ("bbrk;", [0x23b5]), ("barwedge;", [0x2305]), ("barwed;", [0x2305]),
    ("barvee;", [0x22bd]), ("backsimeq;", [0x22cd]), ("backsim;", [0x223d]), ("backprime;", [0x2035]),
    ("backepsilon;", [0x3f6]), ("backcong;", [0x224c]), ("bNot;", [0x2aed])]
  | 'c' => [
    ("cylcty;", [0x232d]), ("cwint;", [0x2231]), ("cwconint;", [0x2232]), ("cuwed;", [0x22cf]),
    ("cuvee;", [0x22ce]), ("curvearrowright;", [0x21b7]), ("curvearrowleft;", [0x21b6]),
    ("curren;", [0xa4]), ("curren", [0xa4]), ("curlywedge;", [0x22cf]), ("curlyvee;", [0x22ce]),
    ("curlyeqsucc;", [0x22df]), ("curlyeqprec;", [0x22de]), ("curarrm;", [0x293c]),
    ("curarr;", [0x21b7]), ("cups;", [0x222a, 0xfe00]), ("cupor;", [0x2a45]), ("cupdot;", [0x228d]),
    ("cupcup;", [0x2a4a]), ("cupcap;", [0x2a46]), ("cupbrcap;", [0x2a48]), ("cup;", [0x222a]),
    ("cularrp;", [0x293d]), ("cularr;", [0x21b6]), ("cuesc;", [0x22df]), ("cuepr;", [0x22de]),
    ("cudarrr;", [0x2935]), ("cudarrl;", [0x2938]), ("ctdot;", [0x22ef]), ("csupe;", [0x2ad2]),
    ("csup;", [0x2ad0]), ("csube;", [0x2ad1]), ("csub;", [0x2acf]), ("cscr;", [0x1d4b8]),
    ("cross;", [0x2717]), ("crarr;", [0x21b5]), ("copysr;", [0x2117]), ("copy;", [0xa9]),
    ("copy", [0xa9]), ("coprod;", [0x2210]), ("copf;", [0x1d554]), ("conint;", [0x222e]),
    ("congdot;", [0x2a6d]), ("cong;", [0x2245]), ("complexes;", [0x2102]), ("complement;", [0x2201]),
    ("compfn;", [0x2218]), ("comp;", [0x2201]), ("commat;", [0x40]), ("comma;", [0x2c]),
    ("coloneq;", [0x2254]), ("colone;", [0x2254]), ("colon;", [0x3a]), ("clubsuit;", [0x2663]),
    ("clubs;", [0x2663]), ("cirscir;", [0x29c2]), ("cirmid;", [0x2aef]), ("cirfnint;", [0x2a10]),
    ("cire;", [0x2257]), ("circleddash;", [0x229d]), ("circledcirc;", [0x229a]),
    ("circledast;", [0x229b]), ("circledS;", [0x24c8]), ("circledR;", [0xae]),
    ("circlearrowright;", [0x21bb]), ("circlearrowleft;", [0x21ba]), ("circeq;", [0x2257]),
    ("circ;", [0x2c6]), ("cirE;", [0x29c3]), ("cir;", [0x25cb]), ("chi;", [0x3c7]),
    ("checkmark;", [0x2713]), ("check;", [0x2713]), ("chcy;", [0x447]), ("cfr;", [0x1d520]),
    ("centerdot;", [0xb7]), ("cent;", [0xa2]), ("cent", [0xa2]), ("cemptyv;", [0x29b2]),
    ("cedil;", [0xb8]), ("cedil", [0xb8]), ("cdot;", [0x10b]), ("ccupssm;", [0x2a50]),
    ("ccups;", [0x2a4c]), ("ccirc;", [0x109]), ("ccedil;", [0xe7]), ("ccedil", [0xe7]),
    ("ccaron;", [0x10d]), ("ccaps;", [0x2a4d]), ("caron;", [0x2c7]), ("caret;", [0x2041]),
    ("caps;", [0x2229, 0xfe00]), ("capdot;", [0x2a40]), ("capcup;", [0x2a47]), ("capcap;", [0x2a4b]),
    ("capbrcup;", [0x2a49]), ("capand;", [0x2a44]), ("cap;", [0x2229]), ("cacute;", [0x107])]
  | 'd' => [
    ("dzigrarr;", [0x27ff]), ("dzcy;", [0x45f]), ("dwangle;", [0x29a6]), ("duhar;", [0x296f]),
    ("duarr;", [0x21f5]), ("dtrif;", [0x25be]), ("dtri;", [0x25bf]), ("dtdot;", [0x22f1]),
    ("dstrok;", [0x111]), ("dsol;", [0x29f6]), ("dscy;", [0x455]), ("dscr;", [0x1d4b9]),
    ("drcrop;", [0x230c]), ("drcorn;", [0x231f]), ("drbkarow;", [0x2910]),
    ("downharpoonright;", [0x21c2]), ("downharpoonleft;", [0x21c3]), ("downdownarrows;", [0x21ca]),
    ("downarrow;", [0x2193]), ("doublebarwedge;", [0x2306]), ("dotsquare;", [0x22a1]),
    ("dotplus;", [0x2214]), ("dotminus;", [0x2238]), ("doteqdot;", [0x2251]), ("doteq;", [0x2250]),
    ("dot;", [0x2d9]), ("dopf;", [0x1d555]), ("dollar;", [0x24]), ("dlcrop;", [0x230d]),
    ("dlcorn;", [0x231e]), ("djcy;", [0x452]), ("divonx;", [0x22c7]), ("divideontimes;", [0x22c7]),
    ("divide;", [0xf7]), ("divide", [0xf7]), ("div;", [0xf7]), ("disin;", [0x22f2]),
    ("digamma;", [0x3dd]), ("die;", [0xa8]), ("diams;", [0x2666]), ("diamondsuit;", [0x2666]),
    ("diamond;", [0x22c4]), ("diam;", [0x22c4]), ("dharr;", [0x21c2]), ("dharl;", [0x21c3]),
    ("dfr;", [0x1d521]), ("dfisht;", [0x297f]), ("demptyv;", [0x29b1]), ("delta;", [0x3b4]),
    ("deg;", [0xb0]), ("deg", [0xb0]), ("ddotseq;", [0x2a77]), ("ddarr;", [0x21ca]),
    ("ddagger;", [0x2021]), ("dd;", [0x2146]), ("dcy;", [0x434]), ("dcaron;", [0x10f]),
    ("dblac;", [0x2dd]), ("dbkarow;", [0x290f]), ("dashv;", [0x22a3]), ("dash;", [0x2010]),
    ("darr;", [0x2193]), ("daleth;", [0x2138]), ("dagger;", [0x2020]), ("dHar;", [0x2965]),
    ("dArr;", [0x21d3])]
  | 'e' => [
    ("exponentiale;", [0x2147]), ("expectation;", [0x2130]), ("exist;", [0x2203]), ("excl;", [0x21]),
    ("euro;", [0x20ac]), ("euml;", [0xeb]), ("euml", [0xeb]), ("eth;", [0xf0]), ("eth", [0xf0]),
    ("eta;", [0x3b7]), ("esim;", [0x2242]), ("esdot;", [0x2250]), ("escr;", [0x212f]),
    ("erarr;", [0x2971]), ("erDot;", [0x2253]), ("eqvparsl;", [0x29e5]), ("equivDD;", [0x2a78]),
    ("equiv;", [0x2261]), ("equest;", [0x225f]), ("equals;", [0x3d]), ("eqslantless;", [0x2a95]),
    ("eqslantgtr;", [0x2a96]), ("eqsim;", [0x2242]), ("eqcolon;", [0x2255]), ("eqcirc;", [0x2256]),
    ("epsiv;", [0x3f5]), ("epsilon;", [0x3b5]), ("epsi;", [0x3b5]), ("eplus;", [0x2a71]),
    ("eparsl;", [0x29e3]), ("epar;", [0x22d5]), ("eopf;", [0x1d556]), ("eogon;", [0x119]),
    ("ensp;", [0x2002]), ("eng;", [0x14b]), ("emsp;", [0x2003]), ("emsp14;", [0x2005]),
    ("emsp13;", [0x2004]), ("emptyv;", [0x2205]), ("emptyset;", [0x2205]), ("empty;", [0x2205]),
    ("emacr;", [0x113]), ("elsdot;", [0x2a97]), ("els;", [0x2a95]), ("ell;", [0x2113]),
    ("elinters;", [0x23e7]), ("el;", [0x2a99]), ("egsdot;", [0x2a98]), ("egs;", [0x2a96]),
    ("egrave;", [0xe8]), ("egrave", [0xe8]), ("eg;", [0x2a9a]), ("efr;", [0x1d522]),
    ("efDot;", [0x2252]), ("ee;", [0x2147]), ("edot;", [0x117]), ("ecy;", [0x44d]),
    ("ecolon;", [0x2255]), ("ecirc;", [0xea]), ("ecirc", [0xea]), ("ecir;", [0x2256]),
    ("ecaron;", [0x11b]), ("easter;", [0x2a6e]), ("eacute;", [0xe9]), ("eacute", [0xe9]),
    ("eDot;", [0x2251]), ("eDDot;", [0x2a77])]
  | 'f' => [
    ("fscr;", [0x1d4bb]), ("frown;", [0x2322]), ("frasl;", [0x2044]), ("frac78;", [0x215e]),
    ("frac58;", [0x215d]), ("frac56;", [0x215a]), ("frac45;", [0x2158]), ("frac38;", [0x215c]),
    ("frac35;", [0x2157]), ("frac34;", [0xbe]), ("frac34", [0xbe]), ("frac25;", [0x2156]),
    ("frac23;", [0x2154]), ("frac18;", [0x215b]), ("frac16;", [0x2159]), ("frac15;", [0x2155]),
    ("frac14;", [0xbc]), ("frac14", [0xbc]), ("frac13;", [0x2153]), ("frac12;", [0xbd]),
    ("frac12", [0xbd]), ("fpartint;", [0x2a0d]), ("forkv;", [0x2ad9]), ("fork;", [0x22d4]),
    ("forall;", [0x2200]), ("fopf;", [0x1d557]), ("fnof;", [0x192]), ("fltns;", [0x25b1]),
    ("fllig;", [0xfb02]), ("flat;", [0x266d]), ("fjlig;", [0x66, 0x6a]), ("filig;", [0xfb01]),
    ("ffr;", [0x1d523]), ("ffllig;", [0xfb04]), ("fflig;", [0xfb00]), ("ffilig;", [0xfb03]),
    ("female;", [0x2640]), ("fcy;", [0x444]), ("fallingdotseq;", [0x2252])]
  | 'g' => [
    ("gvnE;", [0x2269, 0xfe00]), ("gvertneqq;", [0x2269, 0xfe00]), ("gtrsim;", [0x2273]),
    ("gtrless;", [0x2277]), ("gtreqqless;", [0x2a8c]), ("gtreqless;", [0x22db]), ("gtrdot;", [0x22d7]),
    ("gtrarr;", [0x2978]), ("gtrapprox;", [0x2a86]), ("gtquest;", [0x2a7c]), ("gtlPar;", [0x2995]),
    ("gtdot;", [0x22d7]), ("gtcir;", [0x2a7a]), ("gtcc;", [0x2aa7]), ("gt;", [0x3e]), ("gt", [0x3e]),
    ("gsiml;", [0x2a90]), ("gsime;", [0x2a8e]), ("gsim;", [0x2273]), ("gscr;", [0x210a]),
    ("grave;", [0x60]), ("gopf;", [0x1d558]), ("gnsim;", [0x22e7]), ("gneqq;", [0x2269]),
    ("gneq;", [0x2a88]), ("gne;", [0x2a88]), ("gnapprox;", [0x2a8a]), ("gnap;", [0x2a8a]),
    ("gnE;", [0x2269]), ("glj;", [0x2aa4]), ("gla;", [0x2aa5]), ("glE;", [0x2a92]), ("gl;", [0x2277]),
    ("gjcy;", [0x453]), ("gimel;", [0x2137]), ("ggg;", [0x22d9]), ("gg;", [0x226b]),
    ("gfr;", [0x1d524]), ("gesles;", [0x2a94]), ("gesl;", [0x22db, 0xfe00]), ("gesdotol;", [0x2a84]),
    ("gesdoto;", [0x2a82]), ("gesdot;", [0x2a80]), ("gescc;", [0x2aa9]), ("ges;", [0x2a7e]),
    ("geqslant;", [0x2a7e]), ("geqq;", [0x2267]), ("geq;", [0x2265]), ("gel;", [0x22db]),
    ("ge;", [0x2265]), ("gdot;", [0x121]), ("gcy;", [0x433]), ("gcirc;", [0x11d]), ("gbreve;", [0x11f]),
    ("gap;", [0x2a86]), ("gammad;", [0x3dd]), ("gamma;", [0x3b3]), ("gacute;", [0x1f5]),
    ("gEl;", [0x2a8c]), ("gE;", [0x2267])]
  | 'h' => [
    ("hyphen;", [0x2010]), ("hybull;", [0x2043]), ("hstrok;", [0x127]), ("hslash;", [0x210f]),
    ("hscr;", [0x1d4bd]), ("horbar;", [0x2015]), ("hopf;", [0x1d559]), ("hookrightarrow;", [0x21aa]),
    ("hookleftarrow;", [0x21a9]), ("homtht;", [0x223b]), ("hoarr;", [0x21ff]), ("hkswarow;", [0x2926]),
    ("hksearow;", [0x2925]), ("hfr;", [0x1d525]), ("hercon;", [0x22b9]), ("hellip;", [0x2026]),
    ("heartsuit;", [0x2665]), ("hearts;", [0x2665]), ("hcirc;", [0x125]), ("hbar;", [0x210f]),
    ("harrw;", [0x21ad]), ("harrcir;", [0x2948]), ("harr;", [0x2194]), ("hardcy;", [0x44a]),
    ("hamilt;", [0x210b]), ("half;", [0xbd]), ("hairsp;", [0x200a]), ("hArr;", [0x21d4])]
  | 'i' => [
    ("iuml;", [0xef]), ("iuml", [0xef]), ("iukcy;", [0x456]), ("itilde;", [0x129]), ("it;", [0x2062]),
    ("isinv;", [0x2208]), ("isinsv;", [0x22f3]), ("isins;", [0x22f4]), ("isindot;", [0x22f5]),
    ("isinE;", [0x22f9]), ("isin;", [0x2208]), ("iscr;", [0x1d4be]), ("iquest;", [0xbf]),
    ("iquest", [0xbf]), ("iprod;", [0x2a3c]), ("iota;", [0x3b9]), ("iopf;", [0x1d55a]),
    ("iogon;", [0x12f]), ("iocy;", [0x451]), ("intprod;", [0x2a3c]), ("intlarhk;", [0x2a17]),
    ("intercal;", [0x22ba]), ("integers;", [0x2124]), ("intcal;", [0x22ba]), ("int;", [0x222b]),
    ("inodot;", [0x131]), ("infintie;", [0x29dd]), ("infin;", [0x221e]), ("incare;", [0x2105]),
    ("in;", [0x2208]), ("imped;", [0x1b5]), ("imof;", [0x22b7]), ("imath;", [0x131]),
    ("imagpart;", [0x2111]), ("imagline;", [0x2110]), ("image;", [0x2111]), ("imacr;", [0x12b]),
    ("ijlig;", [0x133]), ("iiota;", [0x2129]), ("iinfin;", [0x29dc]), ("iiint;", [0x222d]),
    ("iiiint;", [0x2a0c]), ("ii;", [0x2148]), ("igrave;", [0xec]), ("igrave", [0xec]),
    ("ifr;", [0x1d526]), ("iff;", [0x21d4]), ("iexcl;", [0xa1]), ("iexcl", [0xa1]), ("iecy;", [0x435]),
    ("icy;", [0x438]), ("icirc;", [0xee]), ("icirc", [0xee]), ("ic;", [0x2063]), ("iacute;", [0xed]),
    ("iacute", [0xed])]
  | 'j' => [
    ("jukcy;", [0x454]), ("jsercy;", [0x458]), ("jscr;", [0x1d4bf]), ("jopf;", [0x1d55b]),
    ("jmath;", [0x237]), ("jfr;", [0x1d527]), ("jcy;", [0x439]), ("jcirc;", [0x135])]
  | 'k' => [
    ("kscr;", [0x1d4c0]), ("kopf;", [0x1d55c]), ("kjcy;", [0x45c]), ("khcy;", [0x445]),
    ("kgreen;", [0x138]), ("kfr;", [0x1d528]), ("kcy;", [0x43a]), ("kcedil;", [0x137]),
    ("kappav;", [0x3f0]), ("kappa;", [0x3ba])]
  | 'l' => [
    ("lvnE;", [0x2268, 0xfe00]), ("lvertneqq;", [0x2268, 0xfe00]), ("luruhar;", [0x2966]),
    ("lurdshar;", [0x294a]), ("ltrif;", [0x25c2]), ("ltrie;", [0x22b4]), ("ltri;", [0x25c3]),
    ("ltrPar;", [0x2996]), ("ltquest;", [0x2a7b]), ("ltlarr;", [0x2976]), ("ltimes;", [0x22c9]),
    ("lthree;", [0x22cb]), ("ltdot;", [0x22d6]), ("ltcir;", [0x2a79]), ("ltcc;", [0x2aa6]),
    ("lt;", [0x3c]), ("lt", [0x3c]), ("lstrok;", [0x142]), ("lsquor;", [0x201a]), ("lsquo;", [0x2018]),
    ("lsqb;", [0x5b]), ("lsimg;", [0x2a8f]), ("lsime;", [0x2a8d]), ("lsim;", [0x2272]),
    ("lsh;", [0x21b0]), ("lscr;", [0x1d4c1]), ("lsaquo;", [0x2039]), ("lrtri;", [0x22bf]),
    ("lrm;", [0x200e]), ("lrhard;", [0x296d]), ("lrhar;", [0x21cb]), ("lrcorner;", [0x231f]),
    ("lrarr;", [0x21c6]), ("lparlt;", [0x2993]), ("lpar;", [0x28]), ("lozf;", [0x29eb]),
    ("lozenge;", [0x25ca]), ("loz;", [0x25ca]), ("lowbar;", [0x5f]), ("lowast;", [0x2217]),
    ("lotimes;", [0x2a34]), ("loplus;", [0x2a2d]), ("lopf;", [0x1d55d]), ("lopar;", [0x2985]),
    ("looparrowright;", [0x21ac]), ("looparrowleft;", [0x21ab]), ("longrightarrow;", [0x27f6]),
    ("longmapsto;", [0x27fc]), ("longleftrightarrow;", [0x27f7]), ("longleftarrow;", [0x27f5]),
    ("lobrk;", [0x27e6]), ("loarr;", [0x21fd]), ("loang;", [0x27ec]), ("lnsim;", [0x22e6]),
    ("lneqq;", [0x2268]), ("lneq;", [0x2a87]), ("lne;", [0x2a87]), ("lnapprox;", [0x2a89]),
    ("lnap;", [0x2a89]), ("lnE;", [0x2268]), ("lmoustache;", [0x23b0]), ("lmoust;", [0x23b0]),
    ("lmidot;", [0x140]), ("lltri;", [0x25fa]), ("llhard;", [0x296b]), ("llcorner;", [0x231e]),
    ("llarr;", [0x21c7]), ("ll;", [0x226a]), ("ljcy;", [0x459]), ("lhblk;", [0x2584]),
    ("lharul;", [0x296a]), ("lharu;", [0x21bc]), ("lhard;", [0x21bd]), ("lgE;", [0x2a91]),
    ("lg;", [0x2276]), ("lfr;", [0x1d529]), ("lfloor;", [0x230a]), ("lfisht;", [0x297c]),
    ("lesssim;", [0x2272]), ("lessgtr;", [0x2276]), ("lesseqqgtr;", [0x2a8b]), ("lesseqgtr;", [0x22da]),
    ("lessdot;", [0x22d6]), ("lessapprox;", [0x2a85]), ("lesges;", [0x2a93]),
    ("lesg;", [0x22da, 0xfe00]), ("lesdotor;", [0x2a83]), ("lesdoto;", [0x2a81]), ("lesdot;", [0x2a7f]),
    ("lescc;", [0x2aa8]), ("les;", [0x2a7d]), ("leqslant;", [0x2a7d]), ("leqq;", [0x2266]),
    ("leq;", [0x2264]), ("leg;", [0x22da]), ("leftthreetimes;", [0x22cb]),
    ("leftrightsquigarrow;", [0x21ad]), ("leftrightharpoons;", [0x21cb]),
    ("leftrightarrows;", [0x21c6]), ("leftrightarrow;", [0x2194]), ("leftleftarrows;", [0x21c7]),
    ("leftharpoonup;", [0x21bc]), ("leftharpoondown;", [0x21bd]), ("leftarrowtail;", [0x21a2]),
    ("leftarrow;", [0x2190]), ("le;", [0x2264]), ("ldsh;", [0x21b2]), ("ldrushar;", [0x294b]),
    ("ldrdhar;", [0x2967]), ("ldquor;", [0x201e]), ("ldquo;", [0x201c]), ("ldca;", [0x2936]),
    ("lcy;", [0x43b]), ("lcub;", [0x7b]), ("lceil;", [0x2308]), ("lcedil;", [0x13c]),
    ("lcaron;", [0x13e]), ("lbrkslu;", [0x298d]), ("lbrksld;", [0x298f]), ("lbrke;", [0x298b]),
    ("lbrack;", [0x5b]), ("lbrace;", [0x7b]), ("lbbrk;", [0x2772]), ("lbarr;", [0x290c]),
    ("lates;", [0x2aad, 0xfe00]), ("late;", [0x2aad]), ("latail;", [0x2919]), ("lat;", [0x2aab]),
    ("larrtl;", [0x21a2]), ("larrsim;", [0x2973]), ("larrpl;", [0x2939]), ("larrlp;", [0x21ab]),
    ("larrhk;", [0x21a9]), ("larrfs;", [0x291d]), ("larrbfs;", [0x291f]), ("larrb;", [0x21e4]),
    ("larr;", [0x2190]), ("laquo;", [0xab]), ("laquo", [0xab]), ("lap;", [0x2a85]),
    ("langle;", [0x27e8]), ("langd;", [0x2991]), ("lang;", [0x27e8]), ("lambda;", [0x3bb]),
    ("lagran;", [0x2112]), ("laemptyv;", [0x29b4]), ("lacute;", [0x13a]), ("lHar;", [0x2962]),
    ("lEg;", [0x2a8b]), ("lE;", [0x2266]), ("lBarr;", [0x290e]), ("lAtail;", [0x291b]),
    ("lArr;", [0x21d0]), ("lAarr;", [0x21da])]
  | 'm' => [
    ("mumap;", [0x22b8]), ("multimap;", [0x22b8]), ("mu;", [0x3bc]), ("mstpos;", [0x223e]),
    ("mscr;", [0x1d4c2]), ("mp;", [0x2213]), ("mopf;", [0x1d55e]), ("models;", [0x22a7]),
    ("mnplus;", [0x2213]), ("mldr;", [0x2026]), ("mlcp;", [0x2adb]), ("minusdu;", [0x2a2a]),
    ("minusd;", [0x2238]), ("minusb;", [0x229f]), ("minus;", [0x2212]), ("middot;", [0xb7]),
    ("middot", [0xb7]), ("midcir;", [0x2af0]), ("midast;", [0x2a]), ("mid;", [0x2223]),
    ("micro;", [0xb5]), ("micro", [0xb5]), ("mho;", [0x2127]), ("mfr;", [0x1d52a]),
    ("measuredangle;", [0x2221]), ("mdash;", [0x2014]), ("mcy;", [0x43c]), ("mcomma;", [0x2a29]),
    ("marker;", [0x25ae]), ("mapstoup;", [0x21a5]), ("mapstoleft;", [0x21a4]),
    ("mapstodown;", [0x21a7]), ("mapsto;", [0x21a6]), ("map;", [0x21a6]), ("maltese;", [0x2720]),
    ("malt;", [0x2720]), ("male;", [0x2642]), ("macr;", [0xaf]), ("macr", [0xaf]), ("mDDot;", [0x223a])]
  | 'n' => [
    ("nwnear;", [0x2927]), ("nwarrow;", [0x2196]), ("nwarr;", [0x2196]), ("nwarhk;", [0x2923]),
    ("nwArr;", [0x21d6]), ("nvsim;", [0x223c, 0x20d2]), ("nvrtrie;", [0x22b5, 0x20d2]),
    ("nvrArr;", [0x2903]), ("nvltrie;", [0x22b4, 0x20d2]), ("nvlt;", [0x3c, 0x20d2]),
    ("nvle;", [0x2264, 0x20d2]), ("nvlArr;", [0x2902]), ("nvinfin;", [0x29de]),
    ("nvgt;", [0x3e, 0x20d2]), ("nvge;", [0x2265, 0x20d2]), ("nvdash;", [0x22ac]),
    ("nvap;", [0x224d, 0x20d2]), ("nvHarr;", [0x2904]), ("nvDash;", [0x22ad]), ("numsp;", [0x2007]),
    ("numero;", [0x2116]), ("num;", [0x23]), ("nu;", [0x3bd]), ("ntrianglerighteq;", [0x22ed]),
    ("ntriangleright;", [0x22eb]), ("ntrianglelefteq;", [0x22ec]), ("ntriangleleft;", [0x22ea]),
    ("ntlg;", [0x2278]), ("ntilde;", [0xf1]), ("ntilde", [0xf1]), ("ntgl;", [0x2279]),
    ("nsupseteqq;", [0x2ac6, 0x338]), ("nsupseteq;", [0x2289]), ("nsupset;", [0x2283, 0x20d2]),
    ("nsupe;", [0x2289]), ("nsupE;", [0x2ac6, 0x338]), ("nsup;", [0x2285]),
    ("nsucceq;", [0x2ab0, 0x338]), ("nsucc;", [0x2281]), ("nsubseteqq;", [0x2ac5, 0x338]),
    ("nsubseteq;", [0x2288]), ("nsubset;", [0x2282, 0x20d2]), ("nsube;", [0x2288]),
    ("nsubE;", [0x2ac5, 0x338]), ("nsub;", [0x2284]), ("nsqsupe;", [0x22e3]), ("nsqsube;", [0x22e2]),
    ("nspar;", [0x2226]), ("nsmid;", [0x2224]), ("nsimeq;", [0x2244]), ("nsime;", [0x2244]),
    ("nsim;", [0x2241]), ("nshortparallel;", [0x2226]), ("nshortmid;", [0x2224]), ("nscr;", [0x1d4c3]),
    ("nsce;", [0x2ab0, 0x338]), ("nsccue;", [0x22e1]), ("nsc;", [0x2281]), ("nrtrie;", [0x22ed]),
    ("nrtri;", [0x22eb]), ("nrightarrow;", [0x219b]), ("nrarrw;", [0x219d, 0x338]),
    ("nrarrc;", [0x2933, 0x338]), ("nrarr;", [0x219b]), ("nrArr;", [0x21cf]),
    ("npreceq;", [0x2aaf, 0x338]), ("nprec;", [0x2280]), ("npre;", [0x2aaf, 0x338]),
    ("nprcue;", [0x22e0]), ("npr;", [0x2280]), ("npolint;", [0x2a14]), ("npart;", [0x2202, 0x338]),
    ("nparsl;", [0x2afd, 0x20e5]), ("nparallel;", [0x2226]), ("npar;", [0x2226]),
    ("notnivc;", [0x22fd]), ("notnivb;", [0x22fe]), ("notniva;", [0x220c]), ("notni;", [0x220c]),
    ("notinvc;", [0x22f6]), ("notinvb;", [0x22f7]), ("notinva;", [0x2209]),
    ("notindot;", [0x22f5, 0x338]), ("notinE;", [0x22f9, 0x338]), ("notin;", [0x2209]),
    ("not;", [0xac]), ("not", [0xac]), ("nopf;", [0x1d55f]), ("nmid;", [0x2224]), ("nltrie;", [0x22ec]),
    ("nltri;", [0x22ea]), ("nlt;", [0x226e]), ("nlsim;", [0x2274]), ("nless;", [0x226e]),
    ("nles;", [0x2a7d, 0x338]), ("nleqslant;", [0x2a7d, 0x338]), ("nleqq;", [0x2266, 0x338]),
    ("nleq;", [0x2270]), ("nleftrightarrow;", [0x21ae]), ("nleftarrow;", [0x219a]), ("nle;", [0x2270]),
    ("nldr;", [0x2025]), ("nlarr;", [0x219a]), ("nlE;", [0x2266, 0x338]), ("nlArr;", [0x21cd]),
    ("njcy;", [0x45a]), ("niv;", [0x220b]), ("nisd;", [0x22fa]), ("nis;", [0x22fc]), ("ni;", [0x220b]),
    ("nhpar;", [0x2af2]), ("nharr;", [0x21ae]), ("nhArr;", [0x21ce]), ("ngtr;", [0x226f]),
    ("ngt;", [0x226f]), ("ngsim;", [0x2275]), ("nges;", [0x2a7e, 0x338]),
    ("ngeqslant;", [0x2a7e, 0x338]), ("ngeqq;", [0x2267, 0x338]), ("ngeq;", [0x2271]),
    ("nge;", [0x2271]), ("ngE;", [0x2267, 0x338]), ("nfr;", [0x1d52b]), ("nexists;", [0x2204]),
    ("nexist;", [0x2204]), ("nesim;", [0x2242, 0x338]), ("nesear;", [0x2928]), ("nequiv;", [0x2262]),
    ("nedot;", [0x2250, 0x338]), ("nearrow;", [0x2197]), ("nearr;", [0x2197]), ("nearhk;", [0x2924]),
    ("neArr;", [0x21d7]), ("ne;", [0x2260]), ("ndash;", [0x2013]), ("ncy;", [0x43d]),
    ("ncup;", [0x2a42]), ("ncongdot;", [0x2a6d, 0x338]), ("ncong;", [0x2247]), ("ncedil;", [0x146]),
    ("ncaron;", [0x148]), ("ncap;", [0x2a43]), ("nbumpe;", [0x224f, 0x338]),
    ("nbump;", [0x224e, 0x338]), ("nbsp;", [0xa0]), ("nbsp", [0xa0]), ("naturals;", [0x2115]),
    ("natural;", [0x266e]), ("natur;", [0x266e]), ("napprox;", [0x2249]), ("napos;", [0x149]),
    ("napid;", [0x224b, 0x338]), ("napE;", [0x2a70, 0x338]), ("nap;", [0x2249]),
    ("nang;", [0x2220, 0x20d2]), ("nacute;", [0x144]), ("nabla;", [0x2207]), ("nVdash;", [0x22ae]),
    ("nVDash;", [0x22af]), ("nRightarrow;", [0x21cf]), ("nLtv;", [0x226a, 0x338]),
    ("nLt;", [0x226a, 0x20d2]), ("nLl;", [0x22d8, 0x338]), ("nLeftrightarrow;", [0x21ce]),
    ("nLeftarrow;", [0x21cd]), ("nGtv;", [0x226b, 0x338]), ("nGt;", [0x226b, 0x20d2]),
    ("nGg;", [0x22d9, 0x338])]
  | 'o' => [
    ("ovbar;", [0x233d]), ("ouml;", [0xf6]), ("ouml", [0xf6]), ("otimesas;", [0x2a36]),
    ("otimes;", [0x2297]), ("otilde;", [0xf5]), ("otilde", [0xf5]), ("osol;", [0x2298]),
    ("oslash;", [0xf8]), ("oslash", [0xf8]), ("oscr;", [0x2134]), ("orv;", [0x2a5b]),
    ("orslope;", [0x2a57]), ("oror;", [0x2a56]), ("origof;", [0x22b6]), ("ordm;", [0xba]),
    ("ordm", [0xba]), ("ordf;", [0xaa]), ("ordf", [0xaa]), ("orderof;", [0x2134]), ("order;", [0x2134]),
    ("ord;", [0x2a5d]), ("orarr;", [0x21bb]), ("or;", [0x2228]), ("oplus;", [0x2295]),
    ("operp;", [0x29b9]), ("opar;", [0x29b7]), ("oopf;", [0x1d560]), ("ominus;", [0x2296]),
    ("omid;", [0x29b6]), ("omicron;", [0x3bf]), ("omega;", [0x3c9]), ("omacr;", [0x14d]),
    ("olt;", [0x29c0]), ("oline;", [0x203e]), ("olcross;", [0x29bb]), ("olcir;", [0x29be]),
    ("olarr;", [0x21ba]), ("oint;", [0x222e]), ("ohm;", [0x3a9]), ("ohbar;", [0x29b5]),
    ("ogt;", [0x29c1]), ("ograve;", [0xf2]), ("ograve", [0xf2]), ("ogon;", [0x2db]),
    ("ofr;", [0x1d52c]), ("ofcir;", [0x29bf]), ("oelig;", [0x153]), ("odsold;", [0x29bc]),
    ("odot;", [0x2299]), ("odiv;", [0x2a38]), ("odblac;", [0x151]), ("odash;", [0x229d]),
    ("ocy;", [0x43e]), ("ocirc;", [0xf4]), ("ocirc", [0xf4]), ("ocir;", [0x229a]), ("oast;", [0x229b]),
    ("oacute;", [0xf3]), ("oacute", [0xf3]), ("oS;", [0x24c8])]
  | 'p' => [
    ("puncsp;", [0x2008]), ("psi;", [0x3c8]), ("pscr;", [0x1d4c5]), ("prurel;", [0x22b0]),
    ("prsim;", [0x227e]), ("propto;", [0x221d]), ("prop;", [0x221d]), ("profsurf;", [0x2313]),
    ("profline;", [0x2312]), ("profalar;", [0x232e]), ("prod;", [0x220f]), ("prnsim;", [0x22e8]),
    ("prnap;", [0x2ab9]), ("prnE;", [0x2ab5]), ("primes;", [0x2119]), ("prime;", [0x2032]),
    ("precsim;", [0x227e]), ("precnsim;", [0x22e8]), ("precneqq;", [0x2ab5]),
    ("precnapprox;", [0x2ab9]), ("preceq;", [0x2aaf]), ("preccurlyeq;", [0x227c]),
    ("precapprox;", [0x2ab7]), ("prec;", [0x227a]), ("pre;", [0x2aaf]), ("prcue;", [0x227c]),
    ("prap;", [0x2ab7]), ("prE;", [0x2ab3]), ("pr;", [0x227a]), ("pound;", [0xa3]), ("pound", [0xa3]),
    ("popf;", [0x1d561]), ("pointint;", [0x2a15]), ("pm;", [0xb1]), ("plustwo;", [0x2a27]),
    ("plussim;", [0x2a26]), ("plusmn;", [0xb1]), ("plusmn", [0xb1]), ("pluse;", [0x2a72]),
    ("plusdu;", [0x2a25]), ("plusdo;", [0x2214]), ("pluscir;", [0x2a22]), ("plusb;", [0x229e]),
    ("plusacir;", [0x2a23]), ("plus;", [0x2b]), ("plankv;", [0x210f]), ("planckh;", [0x210e]),
    ("planck;", [0x210f]), ("piv;", [0x3d6]), ("pitchfork;", [0x22d4]), ("pi;", [0x3c0]),
    ("phone;", [0x260e]), ("phmmat;", [0x2133]), ("phiv;", [0x3d5]), ("phi;", [0x3c6]),
    ("pfr;", [0x1d52d]), ("pertenk;", [0x2031]), ("perp;", [0x22a5]), ("permil;", [0x2030]),
    ("period;", [0x2e]), ("percnt;", [0x25]), ("pcy;", [0x43f]), ("part;", [0x2202]),
    ("parsl;", [0x2afd]), ("parsim;", [0x2af3]), ("parallel;", [0x2225]), ("para;", [0xb6]),
    ("para", [0xb6]), ("par;", [0x2225])]
  | 'q' => [
    ("quot;", [0x22]), ("quot", [0x22]), ("questeq;", [0x225f]), ("quest;", [0x3f]),
    ("quatint;", [0x2a16]), ("quaternions;", [0x210d]), ("qscr;", [0x1d4c6]), ("qprime;", [0x2057]),
    ("qopf;", [0x1d562]), ("qint;", [0x2a0c]), ("qfr;", [0x1d52e])]
  | 'r' => [
    ("rx;", [0x211e]), ("ruluhar;", [0x2968]), ("rtriltri;", [0x29ce]), ("rtrif;", [0x25b8]),
    ("rtrie;", [0x22b5]), ("rtri;", [0x25b9]), ("rtimes;", [0x22ca]), ("rthree;", [0x22cc]),
    ("rsquor;", [0x2019]), ("rsquo;", [0x2019]), ("rsqb;", [0x5d]), ("rsh;", [0x21b1]),
    ("rscr;", [0x1d4c7]), ("rsaquo;", [0x203a]), ("rrarr;", [0x21c9]), ("rppolint;", [0x2a12]),
    ("rpargt;", [0x2994]), ("rpar;", [0x29]), ("rotimes;", [0x2a35]), ("roplus;", [0x2a2e]),
    ("ropf;", [0x1d563]), ("ropar;", [0x2986]), ("robrk;", [0x27e7]), ("roarr;", [0x21fe]),
    ("roang;", [0x27ed]), ("rnmid;", [0x2aee]), ("rmoustache;", [0x23b1]), ("rmoust;", [0x23b1]),
    ("rlm;", [0x200f]), ("rlhar;", [0x21cc]), ("rlarr;", [0x21c4]), ("risingdotseq;", [0x2253]),
    ("ring;", [0x2da]), ("rightthreetimes;", [0x22cc]), ("rightsquigarrow;", [0x219d]),
    ("rightrightarrows;", [0x21c9]), ("rightleftharpoons;", [0x21cc]), ("rightleftarrows;", [0x21c4]),
    ("rightharpoonup;", [0x21c0]), ("rightharpoondown;", [0x21c1]), ("rightarrowtail;", [0x21a3]),
    ("rightarrow;", [0x2192]), ("rhov;", [0x3f1]), ("rho;", [0x3c1]), ("rharul;", [0x296c]),
    ("rharu;", [0x21c0]), ("rhard;", [0x21c1]), ("rfr;", [0x1d52f]), ("rfloor;", [0x230b]),
    ("rfisht;", [0x297d]), ("reg;", [0xae]), ("reg", [0xae]), ("rect;", [0x25ad]), ("reals;", [0x211d]),
    ("realpart;", [0x211c]), ("realine;", [0x211b]), ("real;", [0x211c]), ("rdsh;", [0x21b3]),
    ("rdquor;", [0x201d]), ("rdquo;", [0x201d]), ("rdldhar;", [0x2969]), ("rdca;", [0x2937]),
    ("rcy;", [0x440]), ("rcub;", [0x7d]), ("rceil;", [0x2309]), ("rcedil;", [0x157]),
    ("rcaron;", [0x159]), ("rbrkslu;", [0x2990]), ("rbrksld;", [0x298e]), ("rbrke;", [0x298c]),
    ("rbrack;", [0x5d]), ("rbrace;", [0x7d]), ("rbbrk;", [0x2773]), ("rbarr;", [0x290d]),
    ("rationals;", [0x211a]), ("ratio;", [0x2236]), ("ratail;", [0x291a]), ("rarrw;", [0x219d]),
    ("rarrtl;", [0x21a3]), ("rarrsim;", [0x2974]), ("rarrpl;", [0x2945]), ("rarrlp;", [0x21ac]),
    ("rarrhk;", [0x21aa]), ("rarrfs;", [0x291e]), ("rarrc;", [0x2933]), ("rarrbfs;", [0x2920]),
    ("rarrb;", [0x21e5]), ("rarrap;", [0x2975]), ("rarr;", [0x2192]), ("raquo;", [0xbb]),
    ("raquo", [0xbb]), ("rangle;", [0x27e9]), ("range;", [0x29a5]), ("rangd;", [0x2992]),
    ("rang;", [0x27e9]), ("raemptyv;", [0x29b3]), ("radic;", [0x221a]), ("racute;", [0x155]),
    ("race;", [0x223d, 0x331]), ("rHar;", [0x2964]), ("rBarr;", [0x290f]), ("rAtail;", [0x291c]),
    ("rArr;", [0x21d2]), ("rAarr;", [0x21db])]
  | 's' => [
    ("szlig;", [0xdf]), ("szlig", [0xdf]), ("swnwar;", [0x292a]), ("swarrow;", [0x2199]),
    ("swarr;", [0x2199]), ("swarhk;", [0x2926]), ("swArr;", [0x21d9]), ("supsup;", [0x2ad6]),
    ("supsub;", [0x2ad4]), ("supsim;", [0x2ac8]), ("supsetneqq;", [0x2acc]), ("supsetneq;", [0x228b]),
    ("supseteqq;", [0x2ac6]), ("supseteq;", [0x2287]), ("supset;", [0x2283]), ("supplus;", [0x2ac0]),
    ("supne;", [0x228b]), ("supnE;", [0x2acc]), ("supmult;", [0x2ac2]), ("suplarr;", [0x297b]),
    ("suphsub;", [0x2ad7]), ("suphsol;", [0x27c9]), ("supedot;", [0x2ac4]), ("supe;", [0x2287]),
    ("supdsub;", [0x2ad8]), ("supdot;", [0x2abe]), ("supE;", [0x2ac6]), ("sup;", [0x2283]),
    ("sup3;", [0xb3]), ("sup3", [0xb3]), ("sup2;", [0xb2]), ("sup2", [0xb2]), ("sup1;", [0xb9]),
    ("sup1", [0xb9]), ("sung;", [0x266a]), ("sum;", [0x2211]), ("succsim;", [0x227f]),
    ("succnsim;", [0x22e9]), ("succneqq;", [0x2ab6]), ("succnapprox;", [0x2aba]), ("succeq;", [0x2ab0]),
    ("succcurlyeq;", [0x227d]), ("succapprox;", [0x2ab8]), ("succ;", [0x227b]), ("subsup;", [0x2ad3]),
    ("subsub;", [0x2ad5]), ("subsim;", [0x2ac7]), ("subsetneqq;", [0x2acb]), ("subsetneq;", [0x228a]),
    ("subseteqq;", [0x2ac5]), ("subseteq;", [0x2286]), ("subset;", [0x2282]), ("subrarr;", [0x2979]),
    ("subplus;", [0x2abf]), ("subne;", [0x228a]), ("subnE;", [0x2acb]), ("submult;", [0x2ac1]),
    ("subedot;", [0x2ac3]), ("sube;", [0x2286]), ("subdot;", [0x2abd]), ("subE;", [0x2ac5]),
    ("sub;", [0x2282]), ("strns;", [0xaf]), ("straightphi;", [0x3d5]), ("straightepsilon;", [0x3f5]),
    ("starf;", [0x2605]), ("star;", [0x2606]), ("sstarf;", [0x22c6]), ("ssmile;", [0x2323]),
    ("ssetmn;", [0x2216]), ("sscr;", [0x1d4c8]), ("srarr;", [0x2192]), ("squf;", [0x25aa]),
    ("squarf;", [0x25aa]), ("square;", [0x25a1]), ("squ;", [0x25a1]), ("sqsupseteq;", [0x2292]),
    ("sqsupset;", [0x2290]), ("sqsupe;", [0x2292]), ("sqsup;", [0x2290]), ("sqsubseteq;", [0x2291]),
    ("sqsubset;", [0x228f]), ("sqsube;", [0x2291]), ("sqsub;", [0x228f]), ("sqcups;", [0x2294, 0xfe00]),
    ("sqcup;", [0x2294]), ("sqcaps;", [0x2293, 0xfe00]), ("sqcap;", [0x2293]), ("spar;", [0x2225]),
    ("spadesuit;", [0x2660]), ("spades;", [0x2660]), ("sopf;", [0x1d564]), ("solbar;", [0x233f]),
    ("solb;", [0x29c4]), ("sol;", [0x2f]), ("softcy;", [0x44c]), ("smtes;", [0x2aac, 0xfe00]),
    ("smte;", [0x2aac]), ("smt;", [0x2aaa]), ("smile;", [0x2323]), ("smid;", [0x2223]),
    ("smeparsl;", [0x29e4]), ("smashp;", [0x2a33]), ("smallsetminus;", [0x2216]), ("slarr;", [0x2190]),
    ("simrarr;", [0x2972]), ("simplus;", [0x2a24]), ("simne;", [0x2246]), ("simlE;", [0x2a9f]),
    ("siml;", [0x2a9d]), ("simgE;", [0x2aa0]), ("simg;", [0x2a9e]), ("simeq;", [0x2243]),
    ("sime;", [0x2243]), ("simdot;", [0x2a6a]), ("sim;", [0x223c]), ("sigmav;", [0x3c2]),
    ("sigmaf;", [0x3c2]), ("sigma;", [0x3c3]), ("shy;", [0xad]), ("shy", [0xad]),
    ("shortparallel;", [0x2225]), ("shortmid;", [0x2223]), ("shcy;", [0x448]), ("shchcy;", [0x449]),
    ("sharp;", [0x266f]), ("sfrown;", [0x2322]), ("sfr;", [0x1d530]), ("sext;", [0x2736]),
    ("setmn;", [0x2216]), ("setminus;", [0x2216]), ("seswar;", [0x2929]), ("semi;", [0x3b]),
    ("sect;", [0xa7]), ("sect", [0xa7]), ("searrow;", [0x2198]), ("searr;", [0x2198]),
    ("searhk;", [0x2925]), ("seArr;", [0x21d8]), ("sdote;", [0x2a66]), ("sdotb;", [0x22a1]),
    ("sdot;", [0x22c5]), ("scy;", [0x441]), ("scsim;", [0x227f]), ("scpolint;", [0x2a13]),
    ("scnsim;", [0x22e9]), ("scnap;", [0x2aba]), ("scnE;", [0x2ab6]), ("scirc;", [0x15d]),
    ("scedil;", [0x15f]), ("sce;", [0x2ab0]), ("sccue;", [0x227d]), ("scaron;", [0x161]),
    ("scap;", [0x2ab8]), ("scE;", [0x2ab4]), ("sc;", [0x227b]), ("sbquo;", [0x201a]),
    ("sacute;", [0x15b])]
  | 't' => [
    ("twoheadrightarrow;", [0x21a0]), ("twoheadleftarrow;", [0x219e]), ("twixt;", [0x226c]),
    ("tstrok;", [0x167]), ("tshcy;", [0x45b]), ("tscy;", [0x446]), ("tscr;", [0x1d4c9]),
    ("trpezium;", [0x23e2]), ("tritime;", [0x2a3b]), ("trisb;", [0x29cd]), ("triplus;", [0x2a39]),
    ("triminus;", [0x2a3a]), ("trie;", [0x225c]), ("tridot;", [0x25ec]), ("trianglerighteq;", [0x22b5]),
    ("triangleright;", [0x25b9]), ("triangleq;", [0x225c]), ("trianglelefteq;", [0x22b4]),
    ("triangleleft;", [0x25c3]), ("triangledown;", [0x25bf]), ("triangle;", [0x25b5]),
    ("trade;", [0x2122]), ("tprime;", [0x2034]), ("tosa;", [0x2929]), ("topfork;", [0x2ada]),
    ("topf;", [0x1d565]), ("topcir;", [0x2af1]), ("topbot;", [0x2336]), ("top;", [0x22a4]),
    ("toea;", [0x2928]), ("tint;", [0x222d]), ("timesd;", [0x2a30]), ("timesbar;", [0x2a31]),
    ("timesb;", [0x22a0]), ("times;", [0xd7]), ("times", [0xd7]), ("tilde;", [0x2dc]),
    ("thorn;", [0xfe]), ("thorn", [0xfe]), ("thksim;", [0x223c]), ("thkap;", [0x2248]),
    ("thinsp;", [0x2009]), ("thicksim;", [0x223c]), ("thickapprox;", [0x2248]), ("thetav;", [0x3d1]),
    ("thetasym;", [0x3d1]), ("theta;", [0x3b8]), ("therefore;", [0x2234]), ("there4;", [0x2234]),
    ("tfr;", [0x1d531]), ("telrec;", [0x2315]), ("tdot;", [0x20db]), ("tcy;", [0x442]),
    ("tcedil;", [0x163]), ("tcaron;", [0x165]), ("tbrk;", [0x23b4]), ("tau;", [0x3c4]),
    ("target;", [0x2316])]
  | 'u' => [
    ("uwangle;", [0x29a7]), ("uuml;", [0xfc]), ("uuml", [0xfc]), ("uuarr;", [0x21c8]),
    ("utrif;", [0x25b4]), ("utri;", [0x25b5]), ("utilde;", [0x169]), ("utdot;", [0x22f0]),
    ("uscr;", [0x1d4ca]), ("urtri;", [0x25f9]), ("uring;", [0x16f]), ("urcrop;", [0x230e]),
    ("urcorner;", [0x231d]), ("urcorn;", [0x231d]), ("upuparrows;", [0x21c8]), ("upsilon;", [0x3c5]),
    ("upsih;", [0x3d2]), ("upsi;", [0x3c5]), ("uplus;", [0x228e]), ("upharpoonright;", [0x21be]),
    ("upharpoonleft;", [0x21bf]), ("updownarrow;", [0x2195]), ("uparrow;", [0x2191]),
    ("uopf;", [0x1d566]), ("uogon;", [0x173]), ("uml;", [0xa8]), ("uml", [0xa8]), ("umacr;", [0x16b]),
    ("ultri;", [0x25f8]), ("ulcrop;", [0x230f]), ("ulcorner;", [0x231c]), ("ulcorn;", [0x231c]),
    ("uhblk;", [0x2580]), ("uharr;", [0x21be]), ("uharl;", [0x21bf]), ("ugrave;", [0xf9]),
    ("ugrave", [0xf9]), ("ufr;", [0x1d532]), ("ufisht;", [0x297e]), ("udhar;", [0x296e]),
    ("udblac;", [0x171]), ("udarr;", [0x21c5]), ("ucy;", [0x443]), ("ucirc;", [0xfb]),
    ("ucirc", [0xfb]), ("ubreve;", [0x16d]), ("ubrcy;", [0x45e]), ("uarr;", [0x2191]),
    ("uacute;", [0xfa]), ("uacute", [0xfa]), ("uHar;", [0x2963]), ("uArr;", [0x21d1])]
  | 'v' => [
    ("vzigzag;", [0x299a]), ("vsupne;", [0x228b, 0xfe00]), ("vsupnE;", [0x2acc, 0xfe00]),
    ("vsubne;", [0x228a, 0xfe00]), ("vsubnE;", [0x2acb, 0xfe00]), ("vscr;", [0x1d4cb]),
    ("vrtri;", [0x22b3]), ("vprop;", [0x221d]), ("vopf;", [0x1d567]), ("vnsup;", [0x2283, 0x20d2]),
    ("vnsub;", [0x2282, 0x20d2]), ("vltri;", [0x22b2]), ("vfr;", [0x1d533]), ("vert;", [0x7c]),
    ("verbar;", [0x7c]), ("vellip;", [0x22ee]), ("veeeq;", [0x225a]), ("veebar;", [0x22bb]),
    ("vee;", [0x2228]), ("vdash;", [0x22a2]), ("vcy;", [0x432]), ("vartriangleright;", [0x22b3]),
    ("vartriangleleft;", [0x22b2]), ("vartheta;", [0x3d1]), ("varsupsetneqq;", [0x2acc, 0xfe00]),
    ("varsupsetneq;", [0x228b, 0xfe00]), ("varsubsetneqq;", [0x2acb, 0xfe00]),
    ("varsubsetneq;", [0x228a, 0xfe00]), ("varsigma;", [0x3c2]), ("varrho;", [0x3f1]),
    ("varr;", [0x2195]), ("varpropto;", [0x221d]), ("varpi;", [0x3d6]), ("varphi;", [0x3d5]),
    ("varnothing;", [0x2205]), ("varkappa;", [0x3f0]), ("varepsilon;", [0x3f5]), ("vangrt;", [0x299c]),
    ("vDash;", [0x22a8]), ("vBarv;", [0x2ae9]), ("vBar;", [0x2ae8]), ("vArr;", [0x21d5])]
  | 'w' => [
    ("wscr;", [0x1d4cc]), ("wreath;", [0x2240]), ("wr;", [0x2240]), ("wp;", [0x2118]),
    ("wopf;", [0x1d568]), ("wfr;", [0x1d534]), ("weierp;", [0x2118]), ("wedgeq;", [0x2259]),
    ("wedge;", [0x2227]), ("wedbar;", [0x2a5f]), ("wcirc;", [0x175])]
  | 'x' => [
    ("xwedge;", [0x22c0]), ("xvee;", [0x22c1]), ("xutri;", [0x25b3]), ("xuplus;", [0x2a04]),
    ("xsqcup;", [0x2a06]), ("xscr;", [0x1d4cd]), ("xrarr;", [0x27f6]), ("xrArr;", [0x27f9]),
    ("xotime;", [0x2a02]), ("xoplus;", [0x2a01]), ("xopf;", [0x1d569]), ("xodot;", [0x2a00]),
    ("xnis;", [0x22fb]), ("xmap;", [0x27fc]), ("xlarr;", [0x27f5]), ("xlArr;", [0x27f8]),
    ("xi;", [0x3be]), ("xharr;", [0x27f7]), ("xhArr;", [0x27fa]), ("xfr;", [0x1d535]),
    ("xdtri;", [0x25bd]), ("xcup;", [0x22c3]), ("xcirc;", [0x25ef]), ("xcap;", [0x22c2])]
  | 'y' => [
    ("yuml;", [0xff]), ("yuml", [0xff]), ("yucy;", [0x44e]), ("yscr;", [0x1d4ce]), ("yopf;", [0x1d56a]),
    ("yicy;", [0x457]), ("yfr;", [0x1d536]), ("yen;", [0xa5]), ("yen", [0xa5]), ("ycy;", [0x44b]),
    ("ycirc;", [0x177]), ("yacy;", [0x44f]), ("yacute;", [0xfd]), ("yacute", [0xfd])]
  | 'z' => [
    ("zwnj;", [0x200c]), ("zwj;", [0x200d]), ("zscr;", [0x1d4cf]), ("zopf;", [0x1d56b]),
    ("zigrarr;", [0x21dd]), ("zhcy;", [0x436]), ("zfr;", [0x1d537]), ("zeta;", [0x3b6]),
    ("zeetrf;", [0x2128]), ("zdot;", [0x17c]), ("zcy;", [0x437]), ("zcaron;", [0x17e]),
    ("zacute;", [0x17a])]
  | _ => []

end MarkupModule.Markup
