/-
# JsonRules.Unicode.Script -- the script of a character

Every character belongs to one script, named by four letters; some characters are used
with further scripts (`Script.extensions`).  `Script.named?` gives the script that a name
stands for.
-/
import JsonRules.Unicode.Runs

namespace JsonRules.Unicode

set_option autoImplicit false

/-- A script, by its four letters. -/
structure Script where
  code : String
  deriving DecidableEq, Repr

namespace Script

/-- The scripts of all code points. -/
def table : Labels Script :=
  .ofLines 4 (fun code => some ⟨String.ofList code⟩)
    ["Zyyy1t Latnq Zyyy6 Latnq Zyyy1b Latn1 Zyyyf Latn1 Zyyy5 Latnn Zyyy1 Latnv Zyyy1 Latnch",
      "Zyyy13 Latn5 Zyyy5 Bopo2 Zyyyk Zinh34 Grek4 Zyyy1 Grek3 Zzzz2 Grek4 Zyyy1 Grek1 Zzzz4 Grek1",
      "Zyyy1 Grek1 Zyyy1 Grek3 Zzzz1 Grek1 Zzzz1 Grekk Zzzz1 Grek1r Copte Grekg Cyrl3p Zinh2 Cyrl4p",
      "Zzzz1 Armn12 Zzzz2 Armn1e Zzzz2 Armn3 Zzzz1 Hebr1j Zzzz8 Hebrr Zzzz4 Hebr6 Zzzzb Arab5 Zyyy1",
      "Arab6 Zyyy1 Arabe Zyyy1 Arab3 Zyyy1 Arabw Zyyy1 Araba Zinhb Arabq Zinh1 Arab30 Zyyy1 Araby",
      "Syrce Zzzz1 Syrc1o Zzzz2 Syrc3 Arab1c Thaa1e Zzzze Nkoo1n Zzzz2 Nkoo3 Samr1a Zzzz2 Samrf",
      "Zzzz1 Mands Zzzz2 Mand1 Zzzz1 Syrcb Zzzz5 Arabv Zzzz1 Arab2 Zzzz5 Arab23 Zyyy1 Arabt Deva29",
      "Zinh4 Devaf Zyyy2 Devaq Beng4 Zzzz1 Beng8 Zzzz2 Beng2 Zzzz2 Bengm Zzzz1 Beng7 Zzzz1 Beng1",
      "Zzzz3 Beng4 Zzzz2 Beng9 Zzzz2 Beng2 Zzzz2 Beng4 Zzzz8 Beng1 Zzzz4 Beng2 Zzzz1 Beng5 Zzzz2",
      "Bengp Zzzz2 Guru3 Zzzz1 Guru6 Zzzz4 Guru2 Zzzz2 Gurum Zzzz1 Guru7 Zzzz1 Guru2 Zzzz1 Guru2",
      "Zzzz1 Guru2 Zzzz2 Guru1 Zzzz1 Guru5 Zzzz4 Guru2 Zzzz2 Guru3 Zzzz3 Guru1 Zzzz7 Guru4 Zzzz1",
      "Guru1 Zzzz7 Guruh Zzzza Gujr3 Zzzz1 Gujr9 Zzzz1 Gujr3 Zzzz1 Gujrm Zzzz1 Gujr7 Zzzz1 Gujr2",
      "Zzzz1 Gujr5 Zzzz2 Gujra Zzzz1 Gujr3 Zzzz1 Gujr3 Zzzz2 Gujr1 Zzzzf Gujr4 Zzzz2 Gujrc Zzzz7",
      "Gujr7 Zzzz1 Orya3 Zzzz1 Orya8 Zzzz2 Orya2 Zzzz2 Oryam Zzzz1 Orya7 Zzzz1 Orya2 Zzzz1 Orya5",
      "Zzzz2 Orya9 Zzzz2 Orya2 Zzzz2 Orya3 Zzzz7 Orya3 Zzzz4 Orya2 Zzzz1 Orya5 Zzzz2 Oryai Zzzza",
      "Taml2 Zzzz1 Taml6 Zzzz3 Taml3 Zzzz1 Taml4 Zzzz3 Taml2 Zzzz1 Taml1 Zzzz1 Taml2 Zzzz3 Taml2",
      "Zzzz3 Taml3 Zzzz3 Tamlc Zzzz4 Taml5 Zzzz3 Taml3 Zzzz1 Taml4 Zzzz2 Taml1 Zzzz6 Taml1 Zzzze",
      "Tamll Zzzz5 Telud Zzzz1 Telu3 Zzzz1 Telun Zzzz1 Telug Zzzz2 Telu9 Zzzz1 Telu3 Zzzz1 Telu4",
      "Zzzz7 Telu2 Zzzz1 Telu3 Zzzz2 Telu1 Zzzz2 Telu4 Zzzz2 Telua Zzzz7 Telu9 Kndad Zzzz1 Knda3",
      "Zzzz1 Kndan Zzzz1 Kndaa Zzzz1 Knda5 Zzzz2 Knda9 Zzzz1 Knda3 Zzzz1 Knda4 Zzzz7 Knda2 Zzzz6",
      "Knda2 Zzzz1 Knda4 Zzzz2 Kndaa Zzzz1 Knda3 Zzzzc Mlymd Zzzz1 Mlym3 Zzzz1 Mlym1f Zzzz1 Mlym3",
      "Zzzz1 Mlym6 Zzzz4 Mlymg Zzzz2 Mlymq Zzzz1 Sinh3 Zzzz1 Sinhi Zzzz3 Sinho Zzzz1 Sinh9 Zzzz1",
      "Sinh1 Zzzz2 Sinh7 Zzzz3 Sinh1 Zzzz4 Sinh6 Zzzz1 Sinh1 Zzzz1 Sinh8 Zzzz6 Sinha Zzzz2 Sinh3",
      "Zzzzc Thai1m Zzzz4 Zyyy1 Thais Zzzz11 Laoo2 Zzzz1 Laoo1 Zzzz1 Laoo5 Zzzz1 Laooo Zzzz1 Laoo1",
      "Zzzz1 Laoon Zzzz2 Laoo5 Zzzz1 Laoo1 Zzzz1 Laoo7 Zzzz1 Laooa Zzzz2 Laoo4 Zzzzw Tibt20 Zzzz1",
      "Tibt10 Zzzz4 Tibt13 Zzzz1 Tibt10 Zzzz1 Tibtf Zzzz1 Tibt7 Zyyy4 Tibt2 Zzzz11 Mymr4g Geor12",
      "Zzzz1 Geor1 Zzzz5 Geor1 Zzzz2 Geor17 Zyyy1 Geor4 Hang74 Ethi21 Zzzz1 Ethi4 Zzzz2 Ethi7 Zzzz1",
      "Ethi1 Zzzz1 Ethi4 Zzzz2 Ethi15 Zzzz1 Ethi4 Zzzz2 Ethix Zzzz1 Ethi4 Zzzz2 Ethi7 Zzzz1 Ethi1",
      "Zzzz1 Ethi4 Zzzz2 Ethif Zzzz1 Ethi1l Zzzz1 Ethi4 Zzzz2 Ethi1v Zzzz2 Ethiw Zzzz3 Ethiq Zzzz6",
      "Cher2e Zzzz2 Cher6 Zzzz2 Canshs Ogamt Zzzz3 Runr23 Zyyy3 Runrb Zzzz7 Tglgm Zzzz9 Tglg1 Hanol",
      "Zyyy2 Zzzz9 Buhdk Zzzzc Tagbd Zzzz1 Tagb3 Zzzz1 Tagb2 Zzzzc Khmr2m Zzzz2 Khmra Zzzz6 Khmra",
      "Zzzz6 Mong2 Zyyy2 Mong1 Zyyy1 Mongk Zzzz6 Mong2h Zzzz7 Mong17 Zzzz5 Cans1y Zzzza Limbv Zzzz1",
      "Limbc Zzzz4 Limbc Zzzz4 Limb1 Zzzz3 Limbc Taleu Zzzz2 Tale5 Zzzzb Talu18 Zzzz4 Taluq Zzzz6",
      "Talub Zzzz3 Talu2 Khmrw Bugis Zzzz2 Bugi2 Lana1r Zzzz1 Lanat Zzzz2 Lanab Zzzz6 Lanaa Zzzz6",
      "Lanae Zzzz2 Zinhv Zzzz1d Bali25 Zzzz1 Bali1e Sund1s Batk1g Zzzz8 Batk4 Lepc1k Zzzz3 Lepcf",
      "Zzzz3 Lepc3 Olck1c Cyrlb Zzzz5 Geor17 Zzzz2 Geor3 Sund8 Zzzz8 Zinh3 Zyyy1 Zinhd Zyyy1 Zinh7",
      "Zyyy4 Zinh1 Zyyy6 Zinh1 Zyyy3 Zinh2 Zyyy1 Zzzz5 Latn12 Grek5 Cyrl1 Latn1d Grek5 Latn4 Grek5",
      "Latnd Cyrl1 Latn1y Grek1 Zinh1s Latn74 Grekm Zzzz2 Grek6 Zzzz2 Grek12 Zzzz2 Grek6 Zzzz2",
      "Grek8 Zzzz1 Grek1 Zzzz1 Grek1 Zzzz1 Grek1 Zzzz1 Grekv Zzzz2 Grek1h Zzzz1 Grekf Zzzz1 Greke",
      "Zzzz2 Grek6 Zzzz1 Grekj Zzzz2 Grek3 Zzzz1 Grek9 Zzzz1 Zyyyc Zinh2 Zyyy2f Zzzz1 Zyyyb Latn1",
      "Zzzz2 Zyyyb Latn1 Zyyyf Zzzz1 Latnd Zzzz3 Zyyyx Zzzzf Zinhx Zzzzf Zyyy12 Grek1 Zyyy3 Latn2",
      "Zyyy6 Latn1 Zyyyr Latn1 Zyyyh Latn15 Zyyy3 Zzzz4 Zyyyii Zzzzm Zyyyb Zzzzl Zyyyps Brai74",
      "Zyyyhg Zzzz2 Zyyyw Zzzz1 Zyyy2x Glag2o Latnw Copt38 Zzzz5 Copt7 Geor12 Zzzz1 Geor1 Zzzz5",
      "Geor1 Zzzz2 Tfng1k Zzzz7 Tfng2 Zzzze Tfng1 Ethin Zzzz9 Ethi7 Zzzz1 Ethi7 Zzzz1 Ethi7 Zzzz1",
      "Ethi7 Zzzz1 Ethi7 Zzzz1 Ethi7 Zzzz1 Ethi7 Zzzz1 Ethi7 Zzzz1 Cyrlw Zyyy2m Zzzzy Haniq Zzzz1",
      "Hani2h Zzzzc Hani5y Zzzzq Zyyyl Hani1 Zyyy1 Hani1 Zyyyp Hani9 Zinh4 Hang2 Zyyy8 Hani4 Zyyy4",
      "Zzzz1 Hira2e Zzzz2 Zinh2 Zyyy2 Hira3 Zyyy1 Kana2i Zyyy2 Kana3 Zzzz5 Bopo17 Zzzz1 Hang2m",
      "Zzzz1 Zyyyg Bopow Zyyy12 Zzzz9 Zyyy1 Kanag Hangv Zzzz1 Zyyy1s Hangv Zyyy29 Kana1b Zyyy1",
      "Kana2g Zyyy4o Hani534 Zyyy1s Hanig74 Yiiiwd Zzzz3 Yiii1j Zzzz9 Lisu1c Vaii8c Zzzzk Cyrl2o",
      "Bamu2g Zzzz8 Zyyyy Latn2u Zyyy3 Latn1v Zzzz2 Latn2 Zzzz1 Latn1 Zzzz1 Latn8 Zzzzl Latne",
      "Sylo19 Zzzz3 Zyyya Zzzz6 Phag1k Zzzz8 Saur1y Zzzz8 Saurc Zzzz6 Devaw Kali1a Zyyy1 Kali1",
      "Rjng10 Zzzzb Rjng1 Hangt Zzzz3 Java26 Zzzz1 Zyyy1 Javaa Zzzz4 Java2 Mymrv Zzzz1 Cham1j Zzzz9",
      "Chame Zzzz2 Chama Zzzz2 Cham4 Mymrw Tavt1v Zzzzo Tavt5 Mtein Zzzza Ethi6 Zzzz2 Ethi6 Zzzz2",
      "Ethi6 Zzzz9 Ethi7 Zzzz1 Ethi7 Zzzz1 Latn17 Zyyy1 Latn9 Grek1 Latn4 Zyyy2 Zzzz4 Cher28 Mtei1a",
      "Zzzz2 Mteia Zzzz6 Hang8mc Zzzzc Hangn Zzzz4 Hang1d Zzzz6is Hania6 Zzzz2 Hani2y Zzzz12 Latn7",
      "Zzzzc Armn5 Zzzz5 Hebrq Zzzz1 Hebr5 Zzzz1 Hebr1 Zzzz1 Hebr2 Zzzz1 Hebr2 Zzzz1 Hebra Arab37",
      "Zzzzg Araba3 Zyyy2 Arab28 Zzzz2 Arab1i Zzzz7 Arab1 Zzzzw Arabg Zinhg Zyyya Zzzz6 Zinhe Cyrl2",
      "Zyyyz Zzzz1 Zyyyj Zzzz1 Zyyy4 Zzzz4 Arab5 Zzzz1 Arab3r Zzzz2 Zyyy1 Zzzz1 Zyyyw Latnq Zyyy6",
      "Latnq Zyyyb Kanaa Zyyy1 Kana19 Zyyy2 Hangv Zzzz3 Hang6 Zzzz2 Hang6 Zzzz2 Hang6 Zzzz2 Hang3",
      "Zzzz3 Zyyy7 Zzzz1 Zyyy7 Zzzza Zyyy5 Zzzz2 Linbc Zzzz1 Linbq Zzzz1 Linbj Zzzz1 Linb2 Zzzz1",
      "Linbf Zzzz2 Linbe Zzzzy Linb3f Zzzz5 Zyyy3 Zzzz4 Zyyy19 Zzzz3 Zyyy9 Grek27 Zzzz1 Zyyyd Zzzz3",
      "Grek1 Zzzz1b Zyyy19 Zinh1 Zzzz3m Lycit Zzzz3 Cari1d Zzzzf Zinh1 Zyyyr Zzzz4 Ital10 Zzzz9",
      "Ital3 Gothr Zzzz5 Perm17 Zzzz5 Ugaru Zzzz1 Ugar1 Xpeo10 Zzzz4 Xpeoe Zzzz16 Dsrt28 Shaw1c",
      "Osmau Zzzz2 Osmaa Zzzz6 Osge10 Zzzz4 Osge10 Zzzz4 Elba14 Zzzz8 Aghb1g Zzzzb Aghb1 Vithb",
      "Zzzz1 Vithf Zzzz1 Vith7 Zzzz1 Vith2 Zzzz1 Vithb Zzzz1 Vithf Zzzz1 Vith7 Zzzz1 Vith2 Zzzz3",
      "Todr1g Zzzzc Lina8n Zzzz9 Linam Zzzza Lina8 Zzzzo Latn6 Zzzz1 Latn16 Zzzz1 Latn9 Zzzz1x",
      "Cprt6 Zzzz2 Cprt1 Zzzz1 Cprt18 Zzzz1 Cprt2 Zzzz3 Cprt1 Zzzz2 Cprt1 Armim Zzzz1 Armi9 Palmw",
      "Nbatv Zzzz8 Nbat9 Zzzz1c Hatrj Zzzz1 Hatr2 Zzzz5 Hatr5 Phnxs Zzzz3 Phnx1 Lydiq Zzzz5 Lydi1",
      "Zzzz1s Merow Merco Zzzz4 Merck Zzzz2 Merc1a Khar4 Zzzz1 Khar2 Zzzz5 Khar8 Zzzz1 Khar3 Zzzz1",
      "Khart Zzzz2 Khar3 Zzzz4 Khara Zzzz7 Khar9 Zzzz7 Sarbw Narbw Zzzzw Mani13 Zzzz4 Manic Zzzz9",
      "Avst1i Zzzz3 Avst7 Prtim Zzzz2 Prti8 Phlij Zzzz5 Phli8 Phlpi Zzzz7 Phlp4 Zzzzc Phlp7 Zzzz28",
      "Orkh21 Zzzz1j Hung1f Zzzzd Hung1f Zzzz7 Hung6 Rohg14 Zzzz8 Rohga Zzzz6 Gara12 Zzzz3 Garat",
      "Zzzz8 Gara2 Zzzz5s Arabv Zzzz1 Yezi16 Zzzz1 Yezi3 Zzzz2 Yezi2 Zzzzg Arab3 Zzzz1j Arab4",
      "Sogo14 Zzzz8 Sogd16 Zzzzm Ougrq Zzzz12 Chrss Zzzzk Elymn Zzzz9 Brah26 Zzzz4 Brah10 Zzzz9",
      "Brah1 Kthi1v Zzzza Kthi1 Zzzz2 Sorap Zzzz7 Soraa Zzzz6 Cakm1h Zzzz1 Cakmi Zzzz8 Mahj13 Zzzz9",
      "Shrd2o Zzzz1 Sinhk Zzzzb Khoji Zzzz1 Khoj1b Zzzz1q Mult7 Zzzz1 Mult1 Zzzz1 Mult4 Zzzz1 Multf",
      "Zzzz1 Multb Zzzz6 Sind1n Zzzz5 Sinda Zzzz6 Gran4 Zzzz1 Gran8 Zzzz2 Gran2 Zzzz2 Granm Zzzz1",
      "Gran7 Zzzz1 Gran2 Zzzz1 Gran5 Zzzz1 Zinh1 Gran9 Zzzz2 Gran2 Zzzz2 Gran3 Zzzz2 Gran1 Zzzz6",
      "Gran1 Zzzz5 Gran7 Zzzz2 Gran7 Zzzz3 Gran5 Zzzzb Tutga Zzzz1 Tutg1 Zzzz2 Tutg1 Zzzz1 Tutg12",
      "Zzzz1 Tutga Zzzz1 Tutg1 Zzzz2 Tutg1 Zzzz1 Tutg4 Zzzz1 Tutga Zzzz1 Tutg2 Zzzz8 Tutg2 Zzzzt",
      "Newa2k Zzzz1 Newa5 Zzzzu Tirh20 Zzzz8 Tirha Zzzz4m Sidd1i Zzzz2 Sidd12 Zzzzy Modi1x Zzzzb",
      "Modia Zzzz6 Mongd Zzzzj Takr1m Zzzz6 Takra Zzzz6 Mymrk Zzzzs Ahomr Zzzz2 Ahomf Zzzz4 Ahomn",
      "Zzzz55 Dogr1o Zzzz2s Wara2b Zzzzc Wara1 Diak7 Zzzz2 Diak1 Zzzz2 Diak8 Zzzz1 Diak2 Zzzz1",
      "Diaku Zzzz1 Diak2 Zzzz2 Diakc Zzzz9 Diaka Zzzz1y Nand8 Zzzz2 Nand1a Zzzz2 Nandb Zzzzr Zanb20",
      "Zzzz8 Soyo2b Zzzzd Cansg Pauc1l Zzzz7 Devaa Zzzz52 Sunuy Zzzze Sunua Zzzz6 Bhks9 Zzzz1",
      "Bhks19 Zzzz1 Bhkse Zzzza Bhkst Zzzz3 Marcw Zzzz2 Marcm Zzzz1 Marce Zzzz21 Gonm7 Zzzz1 Gonm2",
      "Zzzz1 Gonm18 Zzzz3 Gonm1 Zzzz1 Gonm2 Zzzz1 Gonm9 Zzzz8 Gonma Zzzz6 Gong6 Zzzz1 Gong2 Zzzz1",
      "Gong11 Zzzz1 Gong2 Zzzz1 Gong6 Zzzz7 Gonga Zzzz8m Makap Zzzz7 Kawih Zzzz1 Kawi15 Zzzz3 Kawit",
      "Zzzz2d Lisu1 Zzzzf Taml1e Zzzzd Taml1 Xsuxpm Zzzz2u Xsux33 Zzzz1 Xsux5 Zzzzb Xsux5g Zzzz218",
      "Cpmn2r Zzzzd Egypuu Zzzza Egyp32z Zzzz5 Hluwg7 Zzzz5a1 Gukh1m Zzzz1c6 Bamuft Zzzz7 Mroov",
      "Zzzz1 Mrooa Zzzz4 Mroo2 Tnsa27 Zzzz1 Tnsaa Zzzz6 Bassu Zzzz2 Bass6 Zzzza Hmng1y Zzzza Hmnga",
      "Zzzz1 Hmng7 Zzzz1 Hmngl Zzzz5 Hmngj Zzzzc0 Krai1m Zzzz5i Medf2j Zzzz2t Plrd23 Zzzz4 Plrd1l",
      "Zzzz7 Plrdh Zzzz1s Tang1 Nshu1 Hani2 Kits1 Zzzzb Hani2 Zzzze Tang4qg Zzzz8 Tanglc Kitsd2",
      "Zzzz15 Kits1 Tang9 Zzzz6w7 Kana4 Zzzz1 Kana7 Zzzz1 Kana2 Zzzz1 Kana1 Hira7z Kana3 Zzzzf",
      "Hira1 Zzzzt Hira3 Zzzz2 Kana1 Zzzze Kana4 Zzzz8 Nshub0 Zzzz1s4 Dupl2z Zzzz5 Dupld Zzzz3",
      "Dupl9 Zzzz7 Dupla Zzzz2 Dupl4 Zyyy4 Zzzz318 Zyyy6y Zzzz6 Zyyyc4 Zzzz24 Zinh1a Zzzz2 Zinhn",
      "Zzzz9 Zyyy38 Zzzz1o Zyyy6u Zzzza Zyyy13 Zzzz2 Zyyy1q Zinh3 Zyyyh Zinh8 Zyyy2 Zinh7 Zyyyu",
      "Zinh4 Zyyy1p Zzzzl Grek1y Zzzz3e Zyyyk Zzzzc Zyyyk Zzzzc Zyyy2f Zzzz9 Zyyyp Zzzz3r Zyyy2d",
      "Zzzz1 Zyyy1z Zzzz1 Zyyy2 Zzzz2 Zyyy1 Zzzz2 Zyyy2 Zzzz2 Zyyy4 Zzzz1 Zyyyc Zzzz1 Zyyy1 Zzzz1",
      "Zyyy7 Zzzz1 Zyyy1t Zzzz1 Zyyy4 Zzzz2 Zyyy8 Zzzz1 Zyyy7 Zzzz1 Zyyys Zzzz1 Zyyy4 Zzzz1 Zyyy5",
      "Zzzz1 Zyyy1 Zzzz3 Zyyy7 Zzzz1 Zyyy9g Zzzz2 Zyyy84 Zzzz2 Zyyy1e Sgnwi4 Zzzzf Sgnw5 Zzzz1",
      "Sgnwf Zzzzuo Latnv Zzzz6 Latn6 Zzzz5x Glag7 Zzzz1 Glagh Zzzz2 Glag7 Zzzz1 Glag2 Zzzz1 Glag5",
      "Zzzz5 Cyrl1q Zzzzx Cyrl1 Zzzz34 Hmnp19 Zzzz3 Hmnpe Zzzz2 Hmnpa Zzzz4 Hmnp2 Zzzz8w Totov",
      "Zzzzh Wcho1m Zzzz5 Wcho1 Zzzzcw Nagm16 Zzzz5y Onao17 Zzzz4 Onao1 Zzzzdc Ethi7 Zzzz1 Ethi4",
      "Zzzz1 Ethi2 Zzzz1 Ethif Zzzz1 Mend5h Zzzz2 Mendg Zzzz15 Adlm24 Zzzz4 Adlma Zzzz4 Adlm2",
      "Zzzzlt Zyyy1w Zzzz24 Zyyy1p Zzzz5e Arab4 Zzzz1 Arabr Zzzz1 Arab2 Zzzz1 Arab1 Zzzz2 Arab1",
      "Zzzz1 Araba Zzzz1 Arab4 Zzzz1 Arab1 Zzzz1 Arab1 Zzzz6 Arab1 Zzzz4 Arab1 Zzzz1 Arab1 Zzzz1",
      "Arab1 Zzzz1 Arab3 Zzzz1 Arab2 Zzzz1 Arab1 Zzzz2 Arab1 Zzzz1 Arab1 Zzzz1 Arab1 Zzzz1 Arab1",
      "Zzzz1 Arab1 Zzzz1 Arab2 Zzzz1 Arab1 Zzzz2 Arab4 Zzzz1 Arab7 Zzzz1 Arab4 Zzzz1 Arab4 Zzzz1",
      "Arab1 Zzzz1 Araba Zzzz1 Arabh Zzzz5 Arab3 Zzzz1 Arab5 Zzzz1 Arabh Zzzz1g Arab2 Zzzz7i Zyyy18",
      "Zzzz4 Zyyy2s Zzzzc Zyyyf Zzzz2 Zyyyf Zzzz1 Zyyyf Zzzz1 Zyyy11 Zzzza Zyyy4u Zzzz1k Zyyyq",
      "Hira1 Zyyy2 Zzzzd Zyyy18 Zzzz4 Zyyy9 Zzzz7 Zyyy2 Zzzze Zyyy6 Zzzz4a Zyyyrc Zzzz4 Zyyyh Zzzz3",
      "Zyyyd Zzzz3 Zyyy3b Zzzz4 Zyyy2n Zzzz6 Zyyyc Zzzz4 Zyyy1 Zzzzf Zyyyc Zzzz4 Zyyy1k Zzzz8 Zyyya",
      "Zzzz6 Zyyy14 Zzzz8 Zyyyu Zzzz2 Zyyyc Zzzz4 Zyyy2 Zzzz1q Zyyy9g Zzzzc Zyyye Zzzz2 Zyyyd Zzzz3",
      "Zyyya Zzzz5 Zyyy1k Zzzz7 Zyyyf Zzzz2 Zyyyb Zzzz6 Zyyy9 Zzzz7 Zyyy43 Zzzz1 Zyyy2u Zzzzsm",
      "Haniwyo Zzzzw Hani37e Zzzz6 Hani66 Zzzz2 Hani4g2 Zzzze Hani5rl Zzzzf Haniha Zzzz1wi Hanif2",
      "Zzzz15u Hani3t7 Zzzz5 Hani38g Zzzzf975 Zyyy1 Zzzzu Zyyy2o Zzzz3k Zinh6o Zzzz47bk"]

/-- The script of a character. -/
def of (c : Char) : Script := (table.get? c).getD ⟨"Zzzz"⟩

/-- Runs of characters, from a first to a last, that are used with scripts other than their own. -/
def extensionRuns : List (Nat × Nat × List String) :=
  [(0xb7, 0xb7, ["Avst", "Cari", "Copt", "Dupl", "Elba", "Geor", "Glag", "Gong", "Goth", "Grek", "Hani", "Latn", "Lydi", "Mahj", "Perm", "Shaw"]),
   (0x2bc, 0x2bc, ["Beng", "Cyrl", "Deva", "Latn", "Lisu", "Thai", "Toto"]),
   (0x2c7, 0x2c7, ["Bopo", "Latn"]),
   (0x2c9, 0x2cb, ["Bopo", "Latn"]),
   (0x2cd, 0x2cd, ["Latn", "Lisu"]),
   (0x2d7, 0x2d7, ["Latn", "Thai"]),
   (0x2d9, 0x2d9, ["Bopo", "Latn"]),
   (0x300, 0x300, ["Cher", "Copt", "Cyrl", "Grek", "Latn", "Perm", "Sunu", "Tale"]),
   (0x301, 0x301, ["Cher", "Cyrl", "Grek", "Latn", "Osge", "Sunu", "Tale", "Todr"]),
   (0x302, 0x302, ["Cher", "Cyrl", "Latn", "Tfng"]),
   (0x303, 0x303, ["Glag", "Latn", "Sunu", "Syrc", "Thai"]),
   (0x304, 0x304, ["Aghb", "Cher", "Copt", "Cyrl", "Goth", "Grek", "Latn", "Osge", "Syrc", "Tfng", "Todr"]),
   (0x305, 0x305, ["Copt", "Elba", "Glag", "Goth", "Kana", "Latn"]),
   (0x306, 0x306, ["Cyrl", "Grek", "Latn", "Perm"]),
   (0x307, 0x307, ["Copt", "Dupl", "Hebr", "Latn", "Perm", "Syrc", "Tale", "Tfng", "Todr"]),
   (0x308, 0x308, ["Armn", "Cyrl", "Dupl", "Goth", "Grek", "Hebr", "Latn", "Perm", "Syrc", "Tale"]),
   (0x309, 0x309, ["Latn", "Tfng"]),
   (0x30a, 0x30a, ["Dupl", "Latn", "Syrc"]),
   (0x30b, 0x30b, ["Cher", "Cyrl", "Latn", "Osge"]),
   (0x30c, 0x30c, ["Cher", "Latn", "Tale"]),
   (0x30d, 0x30d, ["Latn", "Sunu"]),
   (0x30e, 0x30e, ["Ethi", "Latn"]),
   (0x310, 0x310, ["Latn", "Sunu"]),
   (0x311, 0x311, ["Cyrl", "Latn", "Todr"]),
   (0x313, 0x313, ["Grek", "Latn", "Perm", "Todr"]),
   (0x320, 0x320, ["Latn", "Syrc"]),
   (0x323, 0x323, ["Cher", "Dupl", "Kana", "Latn", "Syrc"]),
   (0x324, 0x324, ["Cher", "Dupl", "Latn", "Syrc"]),
   (0x325, 0x325, ["Latn", "Syrc"]),
   (0x32d, 0x32d, ["Latn", "Sunu", "Syrc"]),
   (0x32e, 0x32e, ["Latn", "Syrc"]),
   (0x330, 0x330, ["Cher", "Latn", "Syrc"]),
   (0x331, 0x331, ["Aghb", "Cher", "Goth", "Latn", "Sunu", "Thai"]),
   (0x342, 0x342, ["Grek"]),
   (0x345, 0x345, ["Grek"]),
   (0x358, 0x358, ["Latn", "Osge"]),
   (0x35e, 0x35e, ["Aghb", "Latn", "Todr"]),
   (0x363, 0x36f, ["Latn"]),
   (0x374, 0x375, ["Copt", "Grek"]),
   (0x483, 0x483, ["Cyrl", "Perm"]),
   (0x484, 0x484, ["Cyrl", "Glag"]),
   (0x485, 0x486, ["Cyrl", "Latn"]),
   (0x487, 0x487, ["Cyrl", "Glag"]),
   (0x589, 0x589, ["Armn", "Geor", "Glag"]),
   (0x60c, 0x60c, ["Arab", "Gara", "Nkoo", "Rohg", "Syrc", "Thaa", "Yezi"]),
   (0x61b, 0x61b, ["Arab", "Gara", "Nkoo", "Rohg", "Syrc", "Thaa", "Yezi"]),
   (0x61c, 0x61c, ["Arab", "Syrc", "Thaa"]),
   (0x61f, 0x61f, ["Adlm", "Arab", "Gara", "Nkoo", "Rohg", "Syrc", "Thaa", "Yezi"]),
   (0x640, 0x640, ["Adlm", "Arab", "Mand", "Mani", "Ougr", "Phlp", "Rohg", "Sogd", "Syrc"]),
   (0x64b, 0x655, ["Arab", "Syrc"]),
   (0x660, 0x669, ["Arab", "Thaa", "Yezi"]),
   (0x670, 0x670, ["Arab", "Syrc"]),
   (0x6d4, 0x6d4, ["Arab", "Rohg"]),
   (0x951, 0x951, ["Beng", "Deva", "Gran", "Gujr", "Guru", "Knda", "Latn", "Mlym", "Orya", "Shrd", "Taml", "Telu", "Tirh"]),
   (0x952, 0x952, ["Beng", "Deva", "Gran", "Gujr", "Guru", "Knda", "Latn", "Mlym", "Orya", "Taml", "Telu", "Tirh"]),
   (0x964, 0x964, ["Beng", "Deva", "Dogr", "Gong", "Gonm", "Gran", "Gujr", "Guru", "Knda", "Mahj", "Mlym", "Nand", "Onao", "Orya", "Sind", "Sinh", "Sylo", "Takr", "Taml", "Telu", "Tirh"]),
   (0x965, 0x965, ["Beng", "Deva", "Dogr", "Gong", "Gonm", "Gran", "Gujr", "Gukh", "Guru", "Knda", "Limb", "Mahj", "Mlym", "Nand", "Onao", "Orya", "Sind", "Sinh", "Sylo", "Takr", "Taml", "Telu", "Tirh"]),
   (0x966, 0x96f, ["Deva", "Dogr", "Kthi", "Mahj"]),
   (0x9e6, 0x9ef, ["Beng", "Cakm", "Sylo"]),
   (0xa66, 0xa6f, ["Guru", "Mult"]),
   (0xae6, 0xaef, ["Gujr", "Khoj"]),
   (0xbe6, 0xbf3, ["Gran", "Taml"]),
   (0xce6, 0xcef, ["Knda", "Nand", "Tutg"]),
   (0x1040, 0x1049, ["Cakm", "Mymr", "Tale"]),
   (0x10fb, 0x10fb, ["Geor", "Glag", "Latn"]),
   (0x16eb, 0x16ed, ["Runr"]),
   (0x1735, 0x1736, ["Buhd", "Hano", "Tagb", "Tglg"]),
   (0x1802, 0x1803, ["Mong", "Phag"]),
   (0x1805, 0x1805, ["Mong", "Phag"]),
   (0x1cd0, 0x1cd0, ["Beng", "Deva", "Gran", "Knda"]),
   (0x1cd1, 0x1cd1, ["Deva"]),
   (0x1cd2, 0x1cd2, ["Beng", "Deva", "Gran", "Knda"]),
   (0x1cd3, 0x1cd3, ["Deva", "Gran", "Knda"]),
   (0x1cd4, 0x1cd4, ["Deva"]),
   (0x1cd5, 0x1cd6, ["Beng", "Deva"]),
   (0x1cd7, 0x1cd7, ["Deva", "Shrd"]),
   (0x1cd8, 0x1cd8, ["Beng", "Deva"]),
   (0x1cd9, 0x1cd9, ["Deva", "Shrd"]),
   (0x1cda, 0x1cda, ["Deva", "Knda", "Mlym", "Orya", "Taml", "Telu"]),
   (0x1cdb, 0x1cdb, ["Deva"]),
   (0x1cdc, 0x1cdd, ["Deva", "Shrd"]),
   (0x1cde, 0x1cdf, ["Deva"]),
   (0x1ce0, 0x1ce0, ["Deva", "Shrd"]),
   (0x1ce1, 0x1ce1, ["Beng", "Deva"]),
   (0x1ce2, 0x1ce8, ["Deva"]),
   (0x1ce9, 0x1ce9, ["Deva", "Nand"]),
   (0x1cea, 0x1cea, ["Beng", "Deva"]),
   (0x1ceb, 0x1cec, ["Deva"]),
   (0x1ced, 0x1ced, ["Beng", "Deva"]),
   (0x1cee, 0x1cf1, ["Deva"]),
   (0x1cf2, 0x1cf2, ["Beng", "Deva", "Gran", "Knda", "Mlym", "Nand", "Orya", "Sinh", "Telu", "Tirh", "Tutg"]),
   (0x1cf3, 0x1cf3, ["Deva", "Gran"]),
   (0x1cf4, 0x1cf4, ["Deva", "Gran", "Knda", "Tutg"]),
   (0x1cf5, 0x1cf6, ["Beng", "Deva"]),
   (0x1cf7, 0x1cf7, ["Beng"]),
   (0x1cf8, 0x1cf9, ["Deva", "Gran"]),
   (0x1cfa, 0x1cfa, ["Nand"]),
   (0x1dc0, 0x1dc1, ["Grek"]),
   (0x1df8, 0x1df8, ["Cyrl", "Latn", "Syrc"]),
   (0x1dfa, 0x1dfa, ["Syrc"]),
   (0x202f, 0x202f, ["Latn", "Mong", "Phag"]),
   (0x204f, 0x204f, ["Adlm", "Arab"]),
   (0x205a, 0x205a, ["Cari", "Geor", "Glag", "Hung", "Lyci", "Orkh"]),
   (0x205d, 0x205d, ["Cari", "Grek", "Hung", "Mero"]),
   (0x20f0, 0x20f0, ["Deva", "Gran", "Latn"]),
   (0x2e17, 0x2e17, ["Copt", "Latn"]),
   (0x2e30, 0x2e30, ["Avst", "Orkh"]),
   (0x2e31, 0x2e31, ["Avst", "Cari", "Geor", "Hung", "Kthi", "Lydi", "Samr"]),
   (0x2e3c, 0x2e3c, ["Dupl"]),
   (0x2e41, 0x2e41, ["Adlm", "Arab", "Hung"]),
   (0x2e43, 0x2e43, ["Cyrl", "Glag"]),
   (0x2ff0, 0x2fff, ["Hani", "Tang"]),
   (0x3001, 0x3001, ["Bopo", "Hang", "Hani", "Hira", "Kana", "Mong", "Yiii"]),
   (0x3002, 0x3002, ["Bopo", "Hang", "Hani", "Hira", "Kana", "Mong", "Phag", "Yiii"]),
   (0x3003, 0x3003, ["Bopo", "Hang", "Hani", "Hira", "Kana"]),
   (0x3006, 0x3006, ["Hani"]),
   (0x3008, 0x3009, ["Bopo", "Hang", "Hani", "Hira", "Kana", "Mong", "Tibt", "Yiii"]),
   (0x300a, 0x300b, ["Bopo", "Hang", "Hani", "Hira", "Kana", "Lisu", "Mong", "Tibt", "Yiii"]),
   (0x300c, 0x3011, ["Bopo", "Hang", "Hani", "Hira", "Kana", "Yiii"]),
   (0x3013, 0x3013, ["Bopo", "Hang", "Hani", "Hira", "Kana"]),
   (0x3014, 0x301b, ["Bopo", "Hang", "Hani", "Hira", "Kana", "Yiii"]),
   (0x301c, 0x301f, ["Bopo", "Hang", "Hani", "Hira", "Kana"]),
   (0x302a, 0x302d, ["Bopo", "Hani"]),
   (0x3030, 0x3030, ["Bopo", "Hang", "Hani", "Hira", "Kana"]),
   (0x3031, 0x3035, ["Hira", "Kana"]),
   (0x3037, 0x3037, ["Bopo", "Hang", "Hani", "Hira", "Kana"]),
   (0x303c, 0x303d, ["Hani", "Hira", "Kana"]),
   (0x303e, 0x303f, ["Hani"]),
   (0x3099, 0x309c, ["Hira", "Kana"]),
   (0x30a0, 0x30a0, ["Hira", "Kana"]),
   (0x30fb, 0x30fb, ["Bopo", "Hang", "Hani", "Hira", "Kana", "Yiii"]),
   (0x30fc, 0x30fc, ["Hira", "Kana"]),
   (0x3190, 0x319f, ["Hani"]),
   (0x31c0, 0x31e5, ["Hani"]),
   (0x31ef, 0x31ef, ["Hani", "Tang"]),
   (0x3220, 0x3247, ["Hani"]),
   (0x3280, 0x32b0, ["Hani"]),
   (0x32c0, 0x32cb, ["Hani"]),
   (0x32ff, 0x32ff, ["Hani"]),
   (0x3358, 0x3370, ["Hani"]),
   (0x337b, 0x337f, ["Hani"]),
   (0x33e0, 0x33fe, ["Hani"]),
   (0xa66f, 0xa66f, ["Cyrl", "Glag"]),
   (0xa700, 0xa707, ["Hani", "Latn"]),
   (0xa830, 0xa832, ["Deva", "Dogr", "Gujr", "Guru", "Khoj", "Knda", "Kthi", "Mahj", "Mlym", "Modi", "Nand", "Shrd", "Sind", "Takr", "Tirh", "Tutg"]),
   (0xa833, 0xa835, ["Deva", "Dogr", "Gujr", "Guru", "Khoj", "Knda", "Kthi", "Mahj", "Modi", "Nand", "Shrd", "Sind", "Takr", "Tirh", "Tutg"]),
   (0xa836, 0xa837, ["Deva", "Dogr", "Gujr", "Guru", "Khoj", "Kthi", "Mahj", "Modi", "Sind", "Takr", "Tirh"]),
   (0xa838, 0xa838, ["Deva", "Dogr", "Gujr", "Guru", "Khoj", "Kthi", "Mahj", "Modi", "Shrd", "Sind", "Takr", "Tirh"]),
   (0xa839, 0xa839, ["Deva", "Dogr", "Gujr", "Guru", "Khoj", "Kthi", "Mahj", "Modi", "Sind", "Takr", "Tirh"]),
   (0xa8f1, 0xa8f1, ["Beng", "Deva", "Tutg"]),
   (0xa8f3, 0xa8f3, ["Deva", "Taml"]),
   (0xa92e, 0xa92e, ["Kali", "Latn", "Mymr"]),
   (0xa9cf, 0xa9cf, ["Bugi", "Java"]),
   (0xfd3e, 0xfd3f, ["Arab", "Nkoo"]),
   (0xfdf2, 0xfdf2, ["Arab", "Thaa"]),
   (0xfdfd, 0xfdfd, ["Arab", "Thaa"]),
   (0xfe45, 0xfe46, ["Bopo", "Hang", "Hani", "Hira", "Kana"]),
   (0xff61, 0xff65, ["Bopo", "Hang", "Hani", "Hira", "Kana", "Yiii"]),
   (0xff70, 0xff70, ["Hira", "Kana"]),
   (0xff9e, 0xff9f, ["Hira", "Kana"]),
   (0x10100, 0x10101, ["Cpmn", "Cprt", "Linb"]),
   (0x10102, 0x10102, ["Cprt", "Linb"]),
   (0x10107, 0x10133, ["Cprt", "Lina", "Linb"]),
   (0x10137, 0x1013f, ["Cprt", "Linb"]),
   (0x102e0, 0x102fb, ["Arab", "Copt"]),
   (0x10af2, 0x10af2, ["Mani", "Ougr"]),
   (0x11301, 0x11301, ["Gran", "Taml"]),
   (0x11303, 0x11303, ["Gran", "Taml"]),
   (0x1133b, 0x1133c, ["Gran", "Taml"]),
   (0x11fd0, 0x11fd1, ["Gran", "Taml"]),
   (0x11fd3, 0x11fd3, ["Gran", "Taml"]),
   (0x1bca0, 0x1bca3, ["Dupl"]),
   (0x1d360, 0x1d371, ["Hani"]),
   (0x1f250, 0x1f251, ["Hani"])]

/-- The scripts that a character is used with. -/
def extensions (c : Char) : List Script :=
  match extensionRuns.find? fun run => run.1 ≤ c.toNat && c.toNat ≤ run.2.1 with
  | some run => run.2.2.map Script.mk
  | none => [Script.of c]

/-- The names of scripts, in small letters and without separators, with their four letters. -/
def names : List (List String × String) :=
  [(["adlam", "adlm"], "Adlm"),
   (["aghb", "caucasianalbanian"], "Aghb"),
   (["ahom"], "Ahom"),
   (["arab", "arabic"], "Arab"),
   (["armi", "imperialaramaic"], "Armi"),
   (["armenian", "armn"], "Armn"),
   (["avestan", "avst"], "Avst"),
   (["bali", "balinese"], "Bali"),
   (["bamu", "bamum"], "Bamu"),
   (["bass", "bassavah"], "Bass"),
   (["batak", "batk"], "Batk"),
   (["beng", "bengali"], "Beng"),
   (["bhaiksuki", "bhks"], "Bhks"),
   (["bopo", "bopomofo"], "Bopo"),
   (["brah", "brahmi"], "Brah"),
   (["brai", "braille"], "Brai"),
   (["bugi", "buginese"], "Bugi"),
   (["buhd", "buhid"], "Buhd"),
   (["cakm", "chakma"], "Cakm"),
   (["canadianaboriginal", "cans"], "Cans"),
   (["cari", "carian"], "Cari"),
   (["cham"], "Cham"),
   (["cher", "cherokee"], "Cher"),
   (["chorasmian", "chrs"], "Chrs"),
   (["copt", "coptic", "qaac"], "Copt"),
   (["cpmn", "cyprominoan"], "Cpmn"),
   (["cprt", "cypriot"], "Cprt"),
   (["cyrillic", "cyrl"], "Cyrl"),
   (["deva", "devanagari"], "Deva"),
   (["diak", "divesakuru"], "Diak"),
   (["dogr", "dogra"], "Dogr"),
   (["deseret", "dsrt"], "Dsrt"),
   (["dupl", "duployan"], "Dupl"),
   (["egyp", "egyptianhieroglyphs"], "Egyp"),
   (["elba", "elbasan"], "Elba"),
   (["elym", "elymaic"], "Elym"),
   (["ethi", "ethiopic"], "Ethi"),
   (["gara", "garay"], "Gara"),
   (["geor", "georgian"], "Geor"),
   (["glag", "glagolitic"], "Glag"),
   (["gong", "gunjalagondi"], "Gong"),
   (["gonm", "masaramgondi"], "Gonm"),
   (["goth", "gothic"], "Goth"),
   (["gran", "grantha"], "Gran"),
   (["greek", "grek"], "Grek"),
   (["gujarati", "gujr"], "Gujr"),
   (["gukh", "gurungkhema"], "Gukh"),
   (["gurmukhi", "guru"], "Guru"),
   (["hang", "hangul"], "Hang"),
   (["han", "hani"], "Hani"),
   (["hano", "hanunoo"], "Hano"),
   (["hatr", "hatran"], "Hatr"),
   (["hebr", "hebrew"], "Hebr"),
   (["hira", "hiragana"], "Hira"),
   (["anatolianhieroglyphs", "hluw"], "Hluw"),
   (["hmng", "pahawhhmong"], "Hmng"),
   (["hmnp", "nyiakengpuachuehmong"], "Hmnp"),
   (["hung", "oldhungarian"], "Hung"),
   (["ital", "olditalic"], "Ital"),
   (["java", "javanese"], "Java"),
   (["kali", "kayahli"], "Kali"),
   (["kana", "katakana"], "Kana"),
   (["kawi"], "Kawi"),
   (["khar", "kharoshthi"], "Khar"),
   (["khmer", "khmr"], "Khmr"),
   (["khoj", "khojki"], "Khoj"),
   (["khitansmallscript", "kits"], "Kits"),
   (["kannada", "knda"], "Knda"),
   (["kiratrai", "krai"], "Krai"),
   (["kaithi", "kthi"], "Kthi"),
   (["lana", "taitham"], "Lana"),
   (["lao", "laoo"], "Laoo"),
   (["latin", "latn"], "Latn"),
   (["lepc", "lepcha"], "Lepc"),
   (["limb", "limbu"], "Limb"),
   (["lina", "lineara"], "Lina"),
   (["linb", "linearb"], "Linb"),
   (["lisu"], "Lisu"),
   (["lyci", "lycian"], "Lyci"),
   (["lydi", "lydian"], "Lydi"),
   (["mahajani", "mahj"], "Mahj"),
   (["maka", "makasar"], "Maka"),
   (["mand", "mandaic"], "Mand"),
   (["mani", "manichaean"], "Mani"),
   (["marc", "marchen"], "Marc"),
   (["medefaidrin", "medf"], "Medf"),
   (["mend", "mendekikakui"], "Mend"),
   (["merc", "meroiticcursive"], "Merc"),
   (["mero", "meroitichieroglyphs"], "Mero"),
   (["malayalam", "mlym"], "Mlym"),
   (["modi"], "Modi"),
   (["mong", "mongolian"], "Mong"),
   (["mro", "mroo"], "Mroo"),
   (["meeteimayek", "mtei"], "Mtei"),
   (["mult", "multani"], "Mult"),
   (["myanmar", "mymr"], "Mymr"),
   (["nagm", "nagmundari"], "Nagm"),
   (["nand", "nandinagari"], "Nand"),
   (["narb", "oldnortharabian"], "Narb"),
   (["nabataean", "nbat"], "Nbat"),
   (["newa"], "Newa"),
   (["nko", "nkoo"], "Nkoo"),
   (["nshu", "nushu"], "Nshu"),
   (["ogam", "ogham"], "Ogam"),
   (["olchiki", "olck"], "Olck"),
   (["olonal", "onao"], "Onao"),
   (["oldturkic", "orkh"], "Orkh"),
   (["oriya", "orya"], "Orya"),
   (["osage", "osge"], "Osge"),
   (["osma", "osmanya"], "Osma"),
   (["olduyghur", "ougr"], "Ougr"),
   (["palm", "palmyrene"], "Palm"),
   (["pauc", "paucinhau"], "Pauc"),
   (["oldpermic", "perm"], "Perm"),
   (["phag", "phagspa"], "Phag"),
   (["inscriptionalpahlavi", "phli"], "Phli"),
   (["phlp", "psalterpahlavi"], "Phlp"),
   (["phnx", "phoenician"], "Phnx"),
   (["miao", "plrd"], "Plrd"),
   (["inscriptionalparthian", "prti"], "Prti"),
   (["rejang", "rjng"], "Rjng"),
   (["hanifirohingya", "rohg"], "Rohg"),
   (["runic", "runr"], "Runr"),
   (["samaritan", "samr"], "Samr"),
   (["oldsoutharabian", "sarb"], "Sarb"),
   (["saur", "saurashtra"], "Saur"),
   (["sgnw", "signwriting"], "Sgnw"),
   (["shavian", "shaw"], "Shaw"),
   (["sharada", "shrd"], "Shrd"),
   (["sidd", "siddham"], "Sidd"),
   (["khudawadi", "sind"], "Sind"),
   (["sinh", "sinhala"], "Sinh"),
   (["sogd", "sogdian"], "Sogd"),
   (["oldsogdian", "sogo"], "Sogo"),
   (["sora", "sorasompeng"], "Sora"),
   (["soyo", "soyombo"], "Soyo"),
   (["sund", "sundanese"], "Sund"),
   (["sunu", "sunuwar"], "Sunu"),
   (["sylo", "sylotinagri"], "Sylo"),
   (["syrc", "syriac"], "Syrc"),
   (["tagb", "tagbanwa"], "Tagb"),
   (["takr", "takri"], "Takr"),
   (["taile", "tale"], "Tale"),
   (["newtailue", "talu"], "Talu"),
   (["tamil", "taml"], "Taml"),
   (["tang", "tangut"], "Tang"),
   (["taiviet", "tavt"], "Tavt"),
   (["telu", "telugu"], "Telu"),
   (["tfng", "tifinagh"], "Tfng"),
   (["tagalog", "tglg"], "Tglg"),
   (["thaa", "thaana"], "Thaa"),
   (["thai"], "Thai"),
   (["tibetan", "tibt"], "Tibt"),
   (["tirh", "tirhuta"], "Tirh"),
   (["tangsa", "tnsa"], "Tnsa"),
   (["todhri", "todr"], "Todr"),
   (["toto"], "Toto"),
   (["tulutigalari", "tutg"], "Tutg"),
   (["ugar", "ugaritic"], "Ugar"),
   (["vai", "vaii"], "Vaii"),
   (["vith", "vithkuqi"], "Vith"),
   (["wara", "warangciti"], "Wara"),
   (["wancho", "wcho"], "Wcho"),
   (["oldpersian", "xpeo"], "Xpeo"),
   (["cuneiform", "xsux"], "Xsux"),
   (["yezi", "yezidi"], "Yezi"),
   (["yi", "yiii"], "Yiii"),
   (["zanabazarsquare", "zanb"], "Zanb"),
   (["inherited", "qaai", "zinh"], "Zinh"),
   (["common", "zyyy"], "Zyyy")]

/-- The script that a name stands for. -/
def named? (name : String) : Option Script :=
  (names.find? fun row => row.1.contains name).map fun row => ⟨row.2⟩

end Script

end JsonRules.Unicode
